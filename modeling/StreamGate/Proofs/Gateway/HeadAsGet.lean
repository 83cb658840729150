import StreamGate.Proofs.Gateway.BodyLength
import StreamGate.Proofs.Gateway.SideBySide

/-!
# `HEAD` beside `GET`

A `HEAD` for a file leaves at another place than the `GET` it stands for: before a session
is started, after the headers are made.  Whichever way the `GET` goes, the client is told
the same.

The two are asked of the same gateway in the same state, at different times, so the time in
the headers is left aside.  Up to where they part they run the same steps, and `Pairs` carries
them along together.

* `Header.undated`: header fields without the time they were made at.
* `Response.Heralds`: an answer tells a client all that another one does, short of its body.
* `Gateway.head_told_as_get`: what `HEAD` and `GET` for a file have in common.
-/

namespace StreamGate

variable {World Handle File : Type}

/-! ## Headers without a time -/

/-- The fields of an answer, in their order, with the time it was made at blotted out. -/
def Header.undated (headers : List Header) : List Header :=
  headers.map fun h => (h.1, if h.1 = "last-modified" then "" else h.2)

theorem Header.undated_append (headers more : List Header) :
    undated (headers ++ more) = undated headers ++ undated more :=
  List.map_append

/-- Every other field is there as it was. -/
theorem Header.get?_undated {name : String} (other : name ≠ "last-modified")
    (headers : List Header) : get? (undated headers) name = get? headers name := by
  unfold undated
  induction headers with
  | nil => rfl
  | cons h headers ih =>
    unfold get? at ih ⊢
    rw [List.map_cons, List.find?_cons, List.find?_cons]
    by_cases named : h.1 = name
    · simp only [named, decide_true, if_neg other, Option.map_some]
    · simp only [named, decide_false, ih]

section Composed

variable (d : Delivery) (now later : Instant) (name : String) (op : Operation) (size : UInt64)
  (userAgent : Option String)

theorem Delivery.undated_file : Header.undated (d.file now name op size userAgent) =
    Header.undated (d.file later name op size userAgent) := by
  simp [Header.undated, Delivery.file, Delivery.caching]

theorem Delivery.undated_range (r : ByteRange) :
    Header.undated (d.range now name op r size userAgent) =
      Header.undated (d.range later name op r size userAgent) := by
  simp [Header.undated, Delivery.range, Delivery.caching]

end Composed

/-! ## Answers without their bodies -/

namespace Response

variable {State : Type} {r r' : Response State}

/-- Two answers with the same status and the same fields but for the time; and if no length
is announced yet, the lengths of their bodies are known and the same. -/
structure Heralds (r r' : Response State) : Prop where
  status : r.status = r'.status
  headers : Header.undated r.headers = Header.undated r'.headers
  length : (∃ announced, Header.get? r.headers "content-length" = some announced) ∨
    ∃ bytes, r.body = .known bytes ∧ r'.body = .known bytes

theorem Heralds.refl_known (status : Nat) (headers : List Header) (bytes : Bytes) :
    (⟨status, headers, .known bytes⟩ : Response State).Heralds ⟨status, headers, .known bytes⟩ :=
  ⟨rfl, rfl, .inr ⟨bytes, rfl, rfl⟩⟩

/-- The length that is announced is the same. -/
theorem Heralds.announced (heralds : Heralds r r') :
    Header.get? r.headers "content-length" = Header.get? r'.headers "content-length" := by
  rw [← Header.get?_undated (by decide), heralds.headers, Header.get?_undated (by decide)]

/-- More fields at the end, the same in both. -/
theorem Heralds.append (heralds : Heralds r r') (extra : List Header) :
    Heralds { r with headers := r.headers ++ extra }
      { r' with headers := r'.headers ++ extra } where
  status := heralds.status
  headers := by
    rw [Header.undated_append, Header.undated_append, heralds.headers]
  length := by
    refine heralds.length.imp_left ?_
    rintro ⟨length, announced⟩
    refine ⟨length, ?_⟩
    obtain ⟨h, found, rfl⟩ := Option.map_eq_some_iff.1 announced
    rw [Header.get?, List.find?_append, found]
    rfl

/-- A length is added to both, and then it is the same, or to neither. -/
theorem Heralds.withLength (heralds : Heralds r r') :
    r.withLength.status = r'.withLength.status ∧
      Header.undated r.withLength.headers = Header.undated r'.withLength.headers := by
  have announced := heralds.announced
  have keeps {a : Response State} {length : String}
      (said : Header.get? a.headers "content-length" = some length) : a.withLength = a := by
    unfold Response.withLength
    split
    · rw [said]
      rfl
    · rfl
  rcases heralds.length with ⟨length, said⟩ | ⟨bytes, body, body'⟩
  · rw [keeps said, keeps (announced ▸ said)]
    exact ⟨heralds.status, heralds.headers⟩
  · unfold Response.withLength
    rw [body, body', announced]
    dsimp only
    split
    · exact ⟨heralds.status, heralds.headers⟩
    · refine ⟨heralds.status, ?_⟩
      rw [Header.undated_append, heralds.headers, ← Header.undated_append]

end Response

/-! ## Two runs from one state -/

namespace Access

variable {α : Type}

/-- A step beside itself. -/
theorem pairs_self (act : Access World α) : Pairs Eq act act (Same (fun _ => True) Eq) := by
  rintro g _ rfl
  generalize act.run g = out
  obtain ⟨e | a, h⟩ := out
  · exact rfl
  · exact ⟨rfl, trivial, rfl⟩

/-- What `GET` and `HEAD` come to together. -/
def Told (r r' : Response (Delivering Handle File)) (_ _ : Gateway World) : Prop := r.Heralds r'

theorem pairs_told_bare {pre : Gateway World → Gateway World → Prop} (status : Nat)
    {headers headers' : List Header} (undated : Header.undated headers = Header.undated headers') :
    Pairs pre (pure (.bare status headers : Response (Delivering Handle File)))
      (pure (.bare status headers')) Told :=
  pairs_pure fun _ _ _ => ⟨rfl, undated, .inr ⟨[], rfl, rfl⟩⟩

/-- A session is started for `GET` where `HEAD` leaves with the headers alone. -/
theorem pairs_told_session {pre : Gateway World → Gateway World → Prop}
    (svc : Services World Handle File) (conn : Option ConnectionId) (status : Nat)
    {headers headers' : List Header} (undated : Header.undated headers = Header.undated headers')
    {announced : String} (announces : Header.get? headers "content-length" = some announced)
    (t : Transfer (Delivering Handle File)) :
    Pairs pre (startSession svc conn status headers t) (pure (.bare status headers'))
      Told := by
  intro g g' _
  obtain ⟨body, h, ran⟩ : ∃ body h, (startSession svc conn status headers t).run g =
      (.ok ⟨status, headers, body⟩, h) := ⟨_, _, rfl⟩
  rw [ran]
  exact ⟨rfl, undated, .inl ⟨announced, announces⟩⟩

variable (svc : Services World Handle File) (later : Instant) (request : Request)

/-- A `GET` for a whole file and its `HEAD`: a file without blocks takes the same way out
in both. -/
theorem pairs_told_deliverFile (name : String) (grant : Grant) (repo : Repo) (manifest : Manifest)
    (key : Option CipherKey) :
    Pairs Eq (deliverFile svc ⟨{ request with method := .get }, name, grant, repo, manifest⟩ key)
      (deliverFile { svc with now := later }
        ⟨{ request with method := .head }, name, grant, repo, manifest⟩ key) Told := by
  have undated := svc.delivery.undated_file svc.now later name grant.operation manifest.fileSize
    request.userAgent
  unfold deliverFile FileRequest.headOnly
  by_cases isEmpty : manifest.isEmpty
  · simp only [isEmpty, Bool.or_true, if_true]
    exact pairs_told_bare 200 undated
  · simp only [isEmpty, Bool.or_false, decide_true, if_true, reduceCtorEq, decide_false,
      Bool.false_eq_true, if_false]
    exact pairs_told_session svc _ 200 undated (Delivery.contentLength_file ..) _

/-- A `GET` for a range and its `HEAD`: without blocks or without a range to satisfy both
leave before the headers are made. -/
theorem pairs_told_deliverRange (name : String) (grant : Grant) (repo : Repo) (manifest : Manifest)
    (header : String) :
    Pairs Eq
      (deliverRange svc ⟨{ request with method := .get }, name, grant, repo, manifest⟩ header)
      (deliverRange { svc with now := later }
        ⟨{ request with method := .head }, name, grant, repo, manifest⟩ header) Told := by
  unfold deliverRange FileRequest.headOnly
  refine pairs_ite (fun _ => pairs_told_bare 200 rfl) fun _ => ?_
  dsimp only
  split
  · exact pairs_throw _
  · rename_i r _
    simp only [decide_true, if_true, reduceCtorEq, decide_false, Bool.false_eq_true, if_false]
    exact pairs_told_session svc _ 206
      (svc.delivery.undated_range svc.now later name grant.operation manifest.fileSize
        request.userAgent r) (Delivery.contentLength_range ..) _

/-- A `GET` for a file and its `HEAD`. -/
theorem pairs_told_file (token name : String) :
    Pairs Eq (file svc { request with method := .get } token name)
      (file { svc with now := later } { request with method := .head } token name) Told := by
  unfold file
  refine (pairs_self (resolveGrant svc token)).bind_same fun grant _ => ?_
  refine pairs_ite (fun _ => pairs_throw_bind _ _ _) fun _ => ?_
  refine pairs_ite (fun _ => fun _ _ _ => ⟨rfl, rfl, .inr ⟨[], rfl, rfl⟩⟩) fun _ => ?_
  refine (pairs_self (loadRepo svc grant.repoId)).bind_same fun repo _ => ?_
  refine (pairs_self (loadKey svc repo grant.username)).bind_same fun key _ => ?_
  refine (pairs_self (checkObject svc repo grant.objectId)).bind_same fun _ _ => ?_
  refine (pairs_self (loadManifest svc repo grant.objectId)).bind_same fun manifest _ => ?_
  have ranged (method : Method) : Request.range { request with method } = request.range := rfl
  rw [ranged .get, ranged .head]
  cases key with
  | some k => exact pairs_told_deliverFile svc later request name grant repo manifest (some k)
  | none =>
    cases request.range with
    | none => exact pairs_told_deliverFile svc later request name grant repo manifest none
    | some header =>
      exact pairs_told_deliverRange svc later request name grant repo manifest header

end Access

/-! ## Requests -/

namespace Gateway

variable (svc : Services World Handle File) (later : Instant) (request : Request)

/-- A refusal goes out as an answer like any other. -/
theorem heralds_settle {act act' : Access World (Response (Delivering Handle File))}
    (pairs : Access.Pairs Eq act act' Access.Told) (g : Gateway World) :
    (settle act g).1.Heralds (settle act' g).1 := by
  have ended := pairs g g rfl
  unfold settle
  generalize act.run g = out at ended ⊢
  generalize act'.run g = out' at ended ⊢
  obtain ⟨e | r, h⟩ := out
  · obtain ⟨e' | r', h'⟩ := out'
    · obtain rfl : e = e' := ended
      exact .refl_known e.status e.headers (Bytes.ofText e.body)
    · exact ended.elim
  · obtain ⟨e' | r', h'⟩ := out'
    · exact ended.elim
    · exact ended

/-- The parameters are read before it matters what is asked for. -/
theorem heralds_fetch {route : Route} (isFile : route.resource = .file) (g : Gateway World) :
    (fetch svc route { request with method := .get } g).1.Heralds
      (fetch { svc with now := later } route { request with method := .head } g).1 := by
  unfold fetch
  rw [isFile]
  split
  · exact .refl_known ..
  · rename_i params _
    match params with
    | [token, name] =>
      exact heralds_settle (Access.pairs_told_file svc later request token name) g
    | [] => exact .refl_known ..
    | [_] => exact .refl_known ..
    | _ :: _ :: _ :: _ => exact .refl_known ..

/-- What is told does not change when the answers are finished and one loses its body. -/
theorem told_respond {route : Route} (isFile : route.resource = .file) (g : Gateway World) :
    (respond svc route { request with method := .get } g).1.status =
        (respond { svc with now := later } route { request with method := .head } g).1.status ∧
      Header.undated (respond svc route { request with method := .get } g).1.headers =
        Header.undated
          (respond { svc with now := later } route { request with method := .head } g).1.headers :=
  ((heralds_fetch svc later request isFile g).append _).withLength

/-- `HEAD` and `GET` for a file tell a client the same, whether it is sent, in whole or in
part, is known to the client already, or is refused: the status is the same, and the fields
are the same in the same order, but for the time they were made at.

This holds of the delivery itself, and of the two as requests on a free connection, where
both are answered at once. -/
theorem head_told_as_get (token name : String) (g : Gateway World) :
    ((settle (Access.file svc { request with method := .get } token name) g).1.status =
        (settle (Access.file { svc with now := later } { request with method := .head }
          token name) g).1.status ∧
      Header.undated
          (settle (Access.file svc { request with method := .get } token name) g).1.headers =
        Header.undated (settle (Access.file { svc with now := later }
          { request with method := .head } token name) g).1.headers) ∧
    ∀ route, Route.ofTarget? request.target = some route → route.resource = .file →
      g.Free request →
      ∃ r h r' h', send svc { request with method := .get } g = (.ready r, h) ∧
        send { svc with now := later } { request with method := .head } g = (.ready r', h') ∧
        r.status = r'.status ∧ Header.undated r.headers = Header.undated r'.headers := by
  have delivered := heralds_settle (Access.pairs_told_file svc later request token name) g
  refine ⟨⟨delivered.status, delivered.headers⟩, fun route routed isFile free => ?_⟩
  have told := told_respond svc later request isFile (request.connection.elim g g.touch)
  have got : send svc { request with method := .get } g = _ :=
    send_eq_respond svc routed (.inl isFile) free
  have asked : send { svc with now := later } { request with method := .head } g = _ :=
    send_eq_respond { svc with now := later } routed (.inl isFile) free
  exact ⟨_, _, _, _, got, asked, told⟩

open MemoryWorld

/-- A part of a file, on a free connection: both answers say `206`, and both announce two
bytes. -/
theorem head_told_as_get_of_part :
    let svc := MemoryWorld.services {} true ⟨⟨2024, 1, 1⟩, 0, 0, 0⟩
    let later : Instant := ⟨⟨2024, 1, 1⟩, 0, 0, 1⟩
    let g : Gateway MemoryWorld := { world := withManifest ⟨5, [BlockId.ofContent []]⟩ }
    let request : Request := ⟨.get, "/files/t/n", [("range", "bytes=1-2")], some "c"⟩
    g.Free request ∧
      (send svc request g).1.glimpse = some (206, some "2", none) ∧
      ∃ r h r' h', send svc request g = (.ready r, h) ∧
        send { svc with now := later } { request with method := .head } g = (.ready r', h') ∧
        r.status = r'.status ∧ Header.undated r.headers = Header.undated r'.headers := by
  intro svc later g request
  have routed : Route.ofTarget? request.target =
      some ⟨.file, [("token", "t"), ("filename", "n")]⟩ := by decide
  have free : g.Free request := fun conn _ => rfl
  refine ⟨free, by decide +kernel, ?_⟩
  exact (head_told_as_get svc later request "t" "n" g).2 _ routed rfl free

end Gateway

end StreamGate
