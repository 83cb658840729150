import StreamGate.Proofs.Gateway.LastByte

/-!
# Announced and sent lengths

A body that ends without an error is as long as the headers say, with one
exception: a file without blocks goes out without a byte under the size that its
manifest claims.

* `Body.Ends`: a client reads a body to its end, with anything happening to the
  gateway between the frames.
* `Body.Ends.length_streamed`: the body of a session has the announced length.
* `Gateway.body_length`: the law for every answer of a delivery.
-/

namespace StreamGate

variable {World Handle File : Type} {svc : Services World Handle File}

/-! ## Bodies -/

/-- Read to its end, a body yields these bytes and no error.  The gateway of each
frame is any gateway. -/
inductive Body.Ends (svc : Services World Handle File) :
    Body (Delivering Handle File) → Bytes → Prop
  | done {b b' : Body (Delivering Handle File)} {g g' : Gateway World}
      (next : b.next svc g = (.done, b', g')) : Ends svc b []
  | data {b b' : Body (Delivering Handle File)} {g g' : Gateway World} {bytes rest : Bytes}
      (next : b.next svc g = (.data bytes, b', g')) (ends : Ends svc b' rest) :
      Ends svc b (bytes ++ rest)

theorem Body.Ends.eq_known {bytes out : Bytes} (ends : (known bytes).Ends svc out) :
    out = bytes := by
  generalize body : known bytes = b at ends
  induction ends generalizing bytes with
  | done next =>
    subst body
    cases bytes with
    | nil => rfl
    | cons x more => cases next
  | data next _ ih =>
    subst body
    cases bytes with
    | nil => cases next
    | cons x more =>
      cases next
      rw [ih rfl, List.append_nil]

namespace Session

/-- A session in balance that has not given up; once it is completed, it has sent what it
announced. -/
structure Sound {State : Type} (left : State → Nat) (s : Session State) : Prop where
  tallies : s.Tallies left
  running : s.phase ≠ .aborted
  completed : s.phase = .completed → s.sent = s.contentLength

variable {State : Type} {src : Source World State} {left : State → Nat} {s s' : Session State}
  {made : List Call} {r : Result}

/-- A session whose body is over has sent what it announced. -/
theorem Does.sent_of_none (counts : src.CountsDown left) (does : s.Does src made r s')
    (ended : r = none) (sound : s.Sound left) : s.sent = s.contentLength := by
  cases does with
  | idle final =>
    refine sound.completed ?_
    cases phase : s.phase with
    | completed => rfl
    | aborted => exact absurd phase sound.running
    | headerSent | streaming =>
      rw [phase] at final
      cases final
  | @completed chunk _ _ _ _ opens answer done all =>
    split at ended
    · rename_i empty
      have counted := (sound.tallies.chunk counts opens answer).1
      rw [List.isEmpty_iff.1 empty] at counted all
      exact counted.symm.trans all
    · cases ended
  | refused | failed | overran | fellShort | handedOut => cases ended

/-- What is handed out is counted. -/
theorem Does.sent_of_ok (counts : src.CountsDown left) (does : s.Does src made r s')
    (tallies : s.Tallies left) {data : Bytes} (handed : r = some (.ok data)) :
    s'.Sound left ∧ s'.sent = s.sent + data.length ∧ s'.contentLength = s.contentLength := by
  have tallies' := does.tallies counts tallies
  cases does with
  | @completed chunk _ _ _ _ opens answer done all =>
    split at handed
    · cases handed
    · cases handed
      have counted := (tallies.chunk counts opens answer).1
      exact ⟨⟨tallies', fun h => (by cases h), fun _ => rfl⟩, all.symm.trans counted, rfl⟩
  | handedOut opens answer more fits =>
    cases handed
    have counted := (tallies.chunk counts opens answer).1
    exact ⟨⟨tallies', fun h => (by cases h), fun h => (by cases h)⟩, counted, rfl⟩
  | idle | refused | failed | overran | fellShort => cases handed

end Session

/-- The body of a session has the announced length. -/
theorem Body.Ends.length_streamed {conn : Option ConnectionId}
    {s : Session (Delivering Handle File)} (sound : s.Sound Services.left) {out : Bytes}
    (ends : (streamed conn s).Ends svc out) : s.sent + out.length = s.contentLength := by
  generalize body : streamed conn s = b at ends
  induction ends generalizing s with
  | @done b b' g g' next =>
    subst body
    obtain ⟨made, -, does⟩ :=
      Session.does_step svc.source (Gateway.host svc.countsUsage conn) s g []
    refine does.sent_of_none Services.countsDown_source ?_ sound
    unfold Body.next at next
    dsimp only at next
    generalize s.step svc.source (Gateway.host svc.countsUsage conn) g = stepped at next
    obtain ⟨_ | e | data, s', g₁⟩ := stepped
    · rfl
    · cases next
    · cases next
  | @data b b' g g' bytes rest next _ ih =>
    subst body
    obtain ⟨made, -, does⟩ :=
      Session.does_step svc.source (Gateway.host svc.countsUsage conn) s g []
    unfold Body.next at next
    dsimp only at next
    generalize s.step svc.source (Gateway.host svc.countsUsage conn) g = stepped at next does
    obtain ⟨_ | e | data, s', g₁⟩ := stepped
    · cases next
    · cases next
    · cases next
      obtain ⟨sound', sent, announced⟩ :=
        does.sent_of_ok Services.countsDown_source sound.tallies rfl
      have rest_length := ih sound' rfl
      rw [List.length_append]
      omega

/-! ## Responses -/

namespace Response

/-- Whatever this response announces, its body comes to. -/
def Measured (svc : Services World Handle File) (r : Response (Delivering Handle File)) : Prop :=
  ∀ announced bytes, Header.get? r.headers "content-length" = some announced →
    r.body.Ends svc bytes → announced = toString bytes.length

/-- A known body is as long as is announced, if no other length was announced before
it was known. -/
theorem measured_known (status : Nat) {headers : List Header} {bytes : Bytes}
    (fits : ∀ announced, Header.get? headers "content-length" = some announced →
      announced = toString bytes.length) :
    Measured svc (withLength ⟨status, headers, .known bytes⟩) := by
  intro announced out found ends
  unfold withLength at found ends
  dsimp only at found ends
  split at found
  · rename_i before
    rw [if_pos before] at ends
    rw [ends.eq_known]
    exact fits _ found
  · rename_i silent
    rw [if_neg silent] at ends
    rw [ends.eq_known]
    have added : Header.get? (headers ++ [("content-length", toString bytes.length)])
        "content-length" = some (toString bytes.length) := by
      rw [Option.not_isSome_iff_eq_none, Header.get?, Option.map_eq_none_iff] at silent
      simp [Header.get?, List.find?_append, silent]
    exact (Option.some.inj (added.symm.trans found)).symm

/-- A body that is a fresh session is as long as is announced. -/
theorem measured_streamed {status length : Nat} {headers : List Header}
    {conn : Option ConnectionId} {source : Delivering Handle File} {id : SessionId}
    {kind : TransferKind} {usage : Option UsageEvent} (installed : svc.Installs source length)
    (said : Header.get? headers "content-length" = some (toString length)) :
    Measured svc ⟨status, headers,
      .streamed conn { id, kind, source, contentLength := length, usage }⟩ := by
  intro announced out found ends
  let s : Session (Delivering Handle File) := { id, kind, source, contentLength := length, usage }
  have sound : s.Sound Services.left :=
    ⟨installed.tallies id kind usage, fun h => (by cases h), fun h => (by cases h)⟩
  have whole : 0 + out.length = length := ends.length_streamed sound
  rw [Nat.zero_add] at whole
  rw [whole]
  exact (Option.some.inj (said.symm.trans found)).symm

theorem measured_of_silent (status : Nat) {headers : List Header} (bytes : Bytes)
    (silent : Header.get? headers "content-length" = none) :
    Measured svc (withLength ⟨status, headers, .known bytes⟩) := by
  refine measured_known status fun announced found => ?_
  rw [silent] at found
  cases found

/-- A refusal announces no length of its own. -/
theorem measured_ofError (e : AccessError) : Measured svc (withLength (ofError e)) := by
  have silent : Header.get? e.headers "content-length" = none := by
    cases e <;> rfl
  exact measured_of_silent e.status (Bytes.ofText e.body) silent

theorem measured_text (status : Nat) (t : String) : Measured svc (withLength (text status t)) := by
  have silent : Header.get? [("content-type", "text/plain; charset=utf-8")] "content-length" =
      none := by decide
  exact measured_of_silent status (Bytes.ofText t) silent

end Response

/-! ## Answers of the gateway -/

/-- A response announces the size that a manifest without blocks claims to have, and
has no body. -/
structure Services.Overstates (svc : Services World Handle File) (w : World)
    (r : Response (Delivering Handle File)) (manifest : Manifest) : Prop where
  found : svc.catalog.Finds w manifest
  blockless : manifest.blocks = []
  size : manifest.fileSize ≠ 0
  announced : Header.get? r.headers "content-length" = some (toString manifest.fileSize)
  status : r.status = 200
  body : r.body = .known []

/-- A response sends what it announces, unless it overstates a file without blocks. -/
def Services.Keeps (svc : Services World Handle File) (w : World)
    (r : Response (Delivering Handle File)) : Prop :=
  r.Measured svc ∨ ∃ manifest, svc.Overstates w r manifest

theorem Services.Delivers.keeps {w : World} {r : Response (Delivering Handle File)}
    (delivers : svc.Delivers w r) : svc.Keeps w r.withLength := by
  cases delivers with
  | bare status => exact .inl (Response.measured_of_silent status [] rfl)
  | @blockless manifest headers found isEmpty announced =>
    by_cases zero : manifest.fileSize = 0
    · refine .inl (Response.measured_known 200 fun v said => ?_)
      rw [announced, zero] at said
      exact (Option.some.inj said).symm
    · have kept : (Response.bare 200 headers : Response (Delivering Handle File)).withLength =
          .bare 200 headers := by
        simp [Response.withLength, Response.bare, announced]
      rw [kept]
      exact .inr ⟨manifest, found, List.isEmpty_iff.1 isEmpty, zero, announced, rfl, rfl⟩
  | atOnce announced =>
    refine .inl (Response.measured_known _ fun v said => ?_)
    rw [announced] at said
    exact (Option.some.inj said).symm
  | streamed id kind usage installed announced =>
    exact .inl (Response.measured_streamed installed announced)

namespace Gateway

variable {route : Route} {request : Request}

/-- The three resources that are deliveries. -/
def isDelivery : Resource → Bool
  | .file | .block | .archive => true
  | _ => false

theorem keeps_settle {act : Access World (Response (Delivering Handle File))}
    {g : Gateway World}
    (ensures : Access.Ensures (Access.Near svc g.world) act fun r _ => svc.Delivers g.world r) :
    svc.Keeps g.world (settle act g).1.withLength := by
  unfold settle
  generalize ran : act.run g = answer
  obtain ⟨e | r, g'⟩ := answer
  · exact .inl (Response.measured_ofError e)
  · exact (ensures _ _ _ .refl ran).keeps

theorem keeps_fetch (get : request.method = .get) (g : Gateway World) :
    svc.Keeps g.world (fetch svc route request g).1.withLength := by
  unfold fetch
  split
  · exact .inl (Response.measured_text _ _)
  · split
    · exact keeps_settle (Access.ensures_file _ get _ _)
    · exact keeps_settle (Access.ensures_block _ _ _ _)
    · exact keeps_settle (Access.ensures_archive _ _ _)
    · exact .inl (Response.measured_text _ _)
    · exact .inl (Response.measured_text _ _)
    · exact .inl (Response.measured_text _ _)

/-- Once its connection is free, a delivery is answered with what it fetches. -/
theorem respond_delivery (get : request.method = .get)
    (delivery : isDelivery route.resource = true) (g : Gateway World) :
    (respond svc route request g).1 = (fetch svc route request g).1.withLength := by
  have closed : isOpen route.resource = false := by
    cases resource : route.resource <;> rw [resource] at delivery <;> first | rfl | cases delivery
  unfold respond
  simp [get, closed]

/-- The answer to a request is the response to it. -/
theorem ready_of_poll {waiter : Waiter} {g g' : Gateway World}
    {r : Response (Delivering Handle File)} (routed : Route.ofTarget? request.target = some route)
    (answered : poll svc ⟨request, waiter⟩ g = (.ready r, g')) :
    r = (respond svc route request g).1 := by
  unfold poll at answered
  simp only [routed] at answered
  split at answered
  · cases answered
    rfl
  · split at answered
    · cases answered
      rfl
    · cases answered

/-- A body that ends without an error has the announced length, whatever the catalog,
the store and the archives hold and whatever else happens meanwhile.  The one
exception is a file without blocks whose manifest claims a size. -/
theorem body_length (svc : Services World Handle File) {g g' : Gateway World}
    (get : request.method = .get) (routed : Route.ofTarget? request.target = some route)
    (delivery : isDelivery route.resource = true) {waiter : Waiter}
    {r : Response (Delivering Handle File)}
    (answered : poll svc ⟨request, waiter⟩ g = (.ready r, g')) :
    r.Measured svc ∨ ∃ manifest, svc.Overstates g.world r manifest := by
  rw [ready_of_poll routed answered, respond_delivery get delivery]
  exact keeps_fetch get g

end Gateway

/-- A world in memory whose only file has this manifest; its token is `t`. -/
def MemoryWorld.withManifest (manifest : Manifest) : MemoryWorld :=
  let catalog := ({} : MemoryCatalog).put (.grant "t" ⟨"repo", "object", .download, "user"⟩)
  let catalog := catalog.put (.repo ⟨"repo", "store", 1, false, 0⟩)
  { empty {} {} with
    catalog := { inner := catalog.put (.manifest ⟨"store", 1⟩ "object" manifest) } }

/-- The bytes of a body that is known. -/
def Body.known? {State : Type} : Body State → Option Bytes
  | .known bytes => some bytes
  | .streamed .. => none

/-- The status, the announced length and the known body of an answer. -/
def Answer.glimpse {State : Type} : Answer State → Option (Nat × Option String × Option Bytes)
  | .ready r => some (r.status, Header.get? r.headers "content-length", r.body.known?)
  | .waiting _ => none

namespace Gateway

open MemoryWorld

/-- Two bytes of a file of five. -/
theorem body_length_of_range :
    let svc := MemoryWorld.services {} true ⟨⟨2024, 1, 1⟩, 0, 0, 0⟩
    let g : Gateway MemoryWorld := { world := withManifest ⟨5, [BlockId.ofContent []]⟩ }
    let request : Request := ⟨.get, "/files/t/n", [("range", "bytes=1-2")], none⟩
    ∃ r g', poll svc ⟨request, .idle⟩ g = (.ready r, g') ∧ r.status = 206 ∧
      Header.get? r.headers "content-length" = some "2" ∧
      ∀ bytes, r.body.Ends svc bytes → "2" = toString bytes.length := by
  intro svc g request
  have shown : (poll svc ⟨request, .idle⟩ g).1.glimpse = some (206, some "2", none) := by
    decide +kernel
  have routed : Route.ofTarget? request.target =
      some ⟨.file, [("token", "t"), ("filename", "n")]⟩ := by decide
  generalize answered : poll svc ⟨request, .idle⟩ g = answer at shown
  obtain ⟨w | r, g'⟩ := answer
  · cases shown
  · obtain ⟨status, announced, -⟩ : r.status = 206 ∧
        Header.get? r.headers "content-length" = some "2" ∧ _ := by
      simpa [Answer.glimpse] using shown
    refine ⟨r, g', rfl, status, announced, fun bytes ends => ?_⟩
    rcases body_length svc rfl routed rfl answered with measured | ⟨_, overstates⟩
    · exact measured _ _ announced ends
    · rw [overstates.status] at status
      cases status

/-- A manifest without blocks that claims five bytes: they are announced, and the body
ends without any. -/
theorem body_length_of_blockless :
    let svc := MemoryWorld.services {} true ⟨⟨2024, 1, 1⟩, 0, 0, 0⟩
    let g : Gateway MemoryWorld := { world := withManifest ⟨5, []⟩ }
    let request : Request := ⟨.get, "/files/t/n", [], none⟩
    ∃ r g', poll svc ⟨request, .idle⟩ g = (.ready r, g') ∧ r.status = 200 ∧
      Header.get? r.headers "content-length" = some "5" ∧ r.body.Ends svc [] ∧
      ¬r.Measured svc := by
  intro svc g request
  have shown : (poll svc ⟨request, .idle⟩ g).1.glimpse = some (200, some "5", some []) := by
    decide +kernel
  generalize answered : poll svc ⟨request, .idle⟩ g = answer at shown
  obtain ⟨w | r, g'⟩ := answer
  · cases shown
  · obtain ⟨status, announced, empty⟩ : r.status = 200 ∧
        Header.get? r.headers "content-length" = some "5" ∧ r.body.known? = some [] := by
      simpa [Answer.glimpse] using shown
    have ends : r.body.Ends svc [] := by
      cases body : r.body with
      | known bytes =>
        rw [body] at empty
        cases empty
        exact .done (g := g) rfl
      | streamed =>
        rw [body] at empty
        cases empty
    refine ⟨r, g', rfl, status, announced, ends, fun law => ?_⟩
    have same : "5" = "0" := law _ _ announced ends
    exact absurd same (by decide)

end Gateway

end StreamGate
