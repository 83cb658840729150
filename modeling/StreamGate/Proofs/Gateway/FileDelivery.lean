import StreamGate.Proofs.Cipher.Material
import StreamGate.Proofs.Gateway.InMemory
import StreamGate.Proofs.Gateway.Reading
import StreamGate.Proofs.Range
import StreamGate.Proofs.Transfer.PartOfFile
import StreamGate.Proofs.Transfer.WholeFile

/-!
# Delivery of files

A request for a file on offer is answered with the file, with the range of it that
was asked for, or with a refusal.  Which of these it is depends on nothing but the
file, its key and the range header: `Offer.outcome`.

* `Services.Offers.started_wholeFile`, `Services.Offers.started_range`: the cursor
  of an answer is ready to hand out exactly its body.
* `Services.Offers.shown_deliver`: status, headers, body and sessions of an answer.
* `Gateway.file_request_exact`: the same of a request that is sent to the gateway,
  and of one that has waited for its connection.
-/

namespace StreamGate

variable {World Handle File : Type} {svc : Services World Handle File}
  {shelf : Shelf World Handle} {token : String} {o : Offer}

namespace Services.Offers

/-! ## Cursors on a file -/

/-- What is stored of a piece can be read again. -/
theorem deciphers_stored (o : Offer) (part : Bytes) : Deciphers o.key (o.stored part) part := by
  unfold Offer.stored
  cases o.key with
  | none => rfl
  | some k => exact deciphers_encrypt k part

/-- The plaintexts of the blocks are the file. -/
theorem flatMap_plaintext (offers : svc.Offers shelf token o) :
    o.manifest.blocks.flatMap (fun id => plaintext o.key (shelf.content id)) = o.file := by
  have parts : o.ids.map (fun id => plaintext o.key (shelf.content id)) = o.parts :=
    map_plaintext_of_stored (deciphers_stored o) offers.stored
  show o.ids.flatMap _ = o.file
  rw [List.flatMap_def, parts]
  exact Bytes.flatten_pieces o.blockSize o.file

/-- A whole file is ready to come out. -/
theorem started_wholeFile (offers : svc.Offers shelf token o)
    (small : o.file.length < UInt64.size) {w : World} (good : shelf.good [] w) (buffer : Nat) :
    Started (Cursor.Plentiful svc.store) o.file
      (Cursor.begin svc.store (Cursor.wholeFile o.repo.storeRef o.manifest o.key buffer) w) := by
  let plain : BlockId → Bytes := fun id => plaintext o.key (shelf.content id)
  have hsize : o.manifest.fileSize.toNat = o.file.length := UInt64.toNat_ofNat_of_lt' small
  let t := Feed.fromStart shelf o.repo.storeRef o.manifest.blocks o.key plain
    o.manifest.fileSize.toNat
  have hfile : t.file = o.file := offers.flatMap_plaintext
  have served : t.Served svc.store := by
    refine ⟨offers.honest, fun id mem => deciphers_of_stored (deciphers_stored o) offers.stored mem,
      fun _ => offers.sized, fun _ => ?_⟩
    · show t.file.length ≤ o.manifest.fileSize.toNat
      rw [hfile, hsize]
  have stands : t.Stands (Cursor.wholeFile o.repo.storeRef o.manifest o.key buffer) w t.file :=
    Feed.Stands.start good buffer
  refine ⟨t, t.file, served, offers.reliable, stands, rfl, ?_, ?_⟩
  · show o.manifest.fileSize.toNat ≤ t.file.length
    rw [hfile, hsize]
  · show o.file = t.file.take o.manifest.fileSize.toNat
    rw [hfile, hsize, List.take_length]

/-- A range of a file that is not encrypted is ready to come out. -/
theorem started_range (offers : svc.Offers shelf token o) (plain : o.key = none)
    (small : o.file.length < UInt64.size) {w : World} (good : shelf.good [] w) (buffer : Nat)
    {r : ByteRange} (inside : r.Within (UInt64.ofNat o.file.length)) :
    Started (Cursor.Plentiful svc.store) ((o.file.take (r.last.toNat + 1)).drop r.first.toNat)
      (Cursor.begin svc.store (Cursor.range o.repo.storeRef o.manifest r buffer) w) := by
  have hsize : (UInt64.ofNat o.file.length).toNat = o.file.length :=
    UInt64.toNat_ofNat_of_lt' small
  have hle := inside.toNat_le
  have hlt := inside.toNat_lt
  rw [hsize] at hlt
  have hfile : o.manifest.blocks.flatMap shelf.content = o.file := by
    have h := offers.flatMap_plaintext
    rw [plain] at h
    exact h
  have positioned := Cursor.begin_range offers.honest offers.measured good inside.ordered buffer
  rw [r.toNat_length inside.ordered inside.length_lt] at positioned
  generalize Cursor.begin svc.store (Cursor.range o.repo.storeRef o.manifest r buffer) w = answer
    at positioned ⊢
  obtain ⟨e | u, c, w'⟩ := answer
  · rcases positioned with ⟨f, fault, -⟩ | ⟨-, outside, -⟩
    · exact offers.reliable f fault
    · rw [hfile] at outside
      omega
  · obtain ⟨i, -, -, -, hremaining, stands⟩ := positioned
    let t := Feed.fromBlock shelf o.repo.storeRef o.manifest.blocks i (r.last.toNat + 1)
    have served : t.Served svc.store := .of_plain offers.honest rfl rfl
    have hdrop : (o.file.drop r.first.toNat).length = o.file.length - r.first.toNat :=
      List.length_drop
    have ht : t.file = o.file := hfile
    rw [hfile] at stands
    refine ⟨t, o.file.drop r.first.toNat, served, offers.reliable, stands, ?_, ?_, ?_⟩
    · show c.remaining + t.file.length = r.last.toNat + 1 + (o.file.drop r.first.toNat).length
      rw [ht]
      omega
    · omega
    · rw [hremaining, List.drop_take]
      congr 1
      omega

end Services.Offers

/-! ## Headers -/

namespace Delivery

theorem contentLength_file (d : Delivery) (now : Instant) (name : String) (op : Operation)
    (size : UInt64) (userAgent : Option String) :
    Header.get? (d.file now name op size userAgent) "content-length" = some (toString size) := by
  simp [Header.get?, file, caching, content, Header.ofText]

theorem contentRange_file (d : Delivery) (now : Instant) (name : String) (op : Operation)
    (size : UInt64) (userAgent : Option String) :
    Header.get? (d.file now name op size userAgent) "content-range" = none := by
  simp [Header.get?, file, caching, content, Header.ofText]

theorem contentLength_range (d : Delivery) (now : Instant) (name : String) (op : Operation)
    (r : ByteRange) (size : UInt64) (userAgent : Option String) :
    Header.get? (d.range now name op r size userAgent) "content-length" =
      some (toString r.length) := by
  simp [Header.get?, range, caching, content, Header.ofText]

theorem contentRange_range (d : Delivery) (now : Instant) (name : String) (op : Operation)
    (r : ByteRange) (size : UInt64) (userAgent : Option String) :
    Header.get? (d.range now name op r size userAgent) "content-range" =
      some (r.contentRange size) := by
  simp [Header.get?, range, caching, content, Header.ofText]

end Delivery

/-- The refusal of a range has no body and says how long the file is. -/
theorem Response.withLength_rangeNotSatisfiable {State : Type} (size : UInt64) :
    (ofError (.rangeNotSatisfiable size) : Response State).withLength =
      ⟨416, [("content-range", ByteRange.unsatisfied size), ("content-length", toString 0)],
        .known []⟩ := by
  have hnil : Bytes.ofText "" = [] := by simp [Bytes.ofText]
  have refused : (ofError (.rangeNotSatisfiable size) : Response State) =
      ⟨416, [("content-range", ByteRange.unsatisfied size)], .known []⟩ := by
    rw [← hnil]
    rfl
  rw [refused]
  rfl

/-! ## Answers -/

/-- What a client gets. -/
structure Outcome where
  status : Nat
  contentLength : Nat
  contentRange : Option String
  body : Bytes
  /-- How many sessions are started for it. -/
  sessions : Nat
deriving DecidableEq

namespace Offer

/-- The answer for a file of no bytes. -/
def nothing : Outcome := ⟨200, 0, none, [], 0⟩

/-- The answer with the whole file. -/
def whole (o : Offer) : Outcome := ⟨200, o.file.length, none, o.file, 1⟩

/-- The answer with a range of the file. -/
def part (o : Offer) (r : ByteRange) : Outcome where
  status := 206
  contentLength := r.last.toNat - r.first.toNat + 1
  contentRange := some s!"bytes {r.first}-{r.last}/{o.file.length}"
  body := (o.file.take (r.last.toNat + 1)).drop r.first.toNat
  sessions := 1

/-- The answer to a range that the file does not have. -/
def refusal (o : Offer) : Outcome := ⟨416, 0, some s!"bytes */{o.file.length}", [], 0⟩

/-- What a request for the file gets, by the range it asks for.  A range counts only
where the file is not encrypted and has a byte. -/
def outcome (o : Offer) (range : Option String) : Outcome :=
  if o.file.length = 0 then nothing
  else
    match o.key, range with
    | none, some header =>
      match ByteRange.parse header (UInt64.ofNat o.file.length) with
      | .ok r => o.part r
      | .error _ => o.refusal
    | _, _ => o.whole

end Offer

/-- A response is what the client is to get, sent from a gateway that has started
`before` sessions. -/
structure Outcome.Shown (expected : Outcome) (svc : Services World Handle File)
    (before : SessionId) (r : Response (Delivering Handle File)) (g : Gateway World) : Prop where
  status : r.status = expected.status
  contentLength : Header.get? r.headers "content-length" = some (toString expected.contentLength)
  contentRange : Header.get? r.headers "content-range" = expected.contentRange
  body : r.body.Yields svc g expected.body
  sessions : g.nextSession = before + expected.sessions

namespace Access

/-- The answer is a session on a cursor that is ready to hand out all of it. -/
theorem shown_startSession {g : Gateway World} {c : Cursor Handle} (expected : Outcome)
    (started : Started (Cursor.Plentiful svc.store) expected.body (c.begin svc.store g.world))
    (length : expected.body.length = expected.contentLength) (pos : expected.contentLength ≠ 0)
    (countable : expected.contentLength < UInt64.size)
    (one : expected.sessions = 1) (conn : Option ConnectionId) (kind : TransferKind)
    (usage : Option UsageEvent) {headers : List Header}
    (contentLength : Header.get? headers "content-length" = some (toString expected.contentLength))
    (contentRange : Header.get? headers "content-range" = expected.contentRange) :
    let (r, g') := Gateway.settle (startSession svc conn expected.status headers
      ⟨kind, .inl c, expected.contentLength, usage⟩) g
    expected.Shown svc g.nextSession r.withLength g' := by
  obtain ⟨g', run, world, nextSession⟩ := run_startSession svc conn expected.status headers
    ⟨kind, .inl c, expected.contentLength, usage⟩ g pos
  simp only [Gateway.settle, run]
  refine ⟨rfl, contentLength, contentRange, ?_, ?_⟩
  · refine Body.yields_streamed Cursor.supplies_source ⟨countable, ?_, .inl ⟨rfl, ?_⟩⟩
    · show expected.contentLength = 0 + expected.body.length
      omega
    · apply Cursor.started_source
      rw [world]
      exact started
  · rw [nextSession, one]

end Access

namespace Services.Offers

/-- A file without bytes has no blocks, and only such a file. -/
theorem isEmpty_fileRequest (offers : svc.Offers shelf token o) (request : Request)
    (name : String) :
    (o.fileRequest request name).manifest.isEmpty = decide (o.file.length = 0) := by
  have paired : o.ids.length = o.parts.length := by
    simpa using congrArg List.length offers.stored
  have hfile : o.parts.flatten = o.file := Bytes.flatten_pieces o.blockSize o.file
  show o.ids.isEmpty = _
  by_cases empty : o.file.length = 0
  · have hnil : o.parts = [] := by
      rw [Offer.parts, List.eq_nil_of_length_eq_zero empty, Bytes.pieces_nil]
    rw [hnil] at paired
    rw [List.eq_nil_of_length_eq_zero paired, decide_eq_true empty]
    rfl
  · rw [decide_eq_false empty]
    cases ids : o.ids with
    | nil =>
      rw [ids] at paired
      rw [List.eq_nil_of_length_eq_zero paired.symm, List.flatten_nil] at hfile
      exact absurd (hfile ▸ rfl) empty
    | cons id rest => rfl

theorem headOnly_fileRequest {request : Request} (get : request.method = .get) (name : String) :
    (o.fileRequest request name).headOnly = false := by
  simp [Access.FileRequest.headOnly, Offer.fileRequest, get]

theorem toNat_fileSize (small : o.file.length < UInt64.size) :
    o.manifest.fileSize.toNat = o.file.length :=
  UInt64.toNat_ofNat_of_lt' small

theorem shown_deliverFile_empty (offers : svc.Offers shelf token o) (empty : o.file.length = 0)
    (key : Option CipherKey) (request : Request) (name : String) (g : Gateway World) :
    let (r, g') := Gateway.settle (Access.deliverFile svc (o.fileRequest request name) key) g
    Offer.nothing.Shown svc g.nextSession r.withLength g' := by
  have hsize : toString o.manifest.fileSize = toString 0 := by
    show toString (UInt64.ofNat o.file.length) = _
    rw [empty]
    rfl
  have contentLength := Delivery.contentLength_file svc.delivery svc.now name o.grant.operation
    o.manifest.fileSize request.userAgent
  have contentRange := Delivery.contentRange_file svc.delivery svc.now name o.grant.operation
    o.manifest.fileSize request.userAgent
  unfold Access.deliverFile
  simp only [offers.isEmpty_fileRequest, empty, decide_true, Bool.or_true, ↓reduceIte]
  show Offer.nothing.Shown svc g.nextSession (Response.bare 200 (svc.delivery.file svc.now name
    o.grant.operation o.manifest.fileSize request.userAgent)).withLength g
  unfold Response.withLength
  simp only [Response.bare, contentLength, Option.isSome_some, ↓reduceIte]
  refine ⟨rfl, ?_, contentRange, Body.yields_known_nil g, rfl⟩
  rw [contentLength, hsize]
  rfl

theorem shown_deliverRange_empty (offers : svc.Offers shelf token o) (empty : o.file.length = 0)
    (header : String) (request : Request) (name : String) (g : Gateway World) :
    let (r, g') := Gateway.settle (Access.deliverRange svc (o.fileRequest request name) header) g
    Offer.nothing.Shown svc g.nextSession r.withLength g' := by
  unfold Access.deliverRange
  simp only [offers.isEmpty_fileRequest, empty, decide_true, ↓reduceIte]
  exact ⟨rfl, rfl, rfl, Body.yields_known_nil g, rfl⟩

theorem shown_deliverFile (offers : svc.Offers shelf token o) (nonempty : o.file.length ≠ 0)
    (small : o.file.length < UInt64.size) {g : Gateway World} (good : shelf.good [] g.world)
    {request : Request} (get : request.method = .get) (name : String) :
    let (r, g') := Gateway.settle (Access.deliverFile svc (o.fileRequest request name) o.key) g
    o.whole.Shown svc g.nextSession r.withLength g' := by
  have hsize : (o.fileRequest request name).manifest.fileSize.toNat = o.whole.contentLength :=
    toNat_fileSize small
  have started := offers.started_wholeFile small good svc.buffer
  unfold Access.deliverFile
  simp only [headOnly_fileRequest get, offers.isEmpty_fileRequest, nonempty, decide_false, hsize,
    Bool.or_self, Bool.false_eq_true, ↓reduceIte]
  refine Access.shown_startSession o.whole started rfl nonempty small rfl
    request.connection .file _ ?_ (Delivery.contentRange_file ..)
  rw [Delivery.contentLength_file, ← hsize]
  rfl

theorem shown_deliverRange (offers : svc.Offers shelf token o) (plain : o.key = none)
    (nonempty : o.file.length ≠ 0) (small : o.file.length < UInt64.size) {g : Gateway World}
    (good : shelf.good [] g.world) {request : Request} (get : request.method = .get)
    (name header : String) :
    let (r, g') := Gateway.settle (Access.deliverRange svc (o.fileRequest request name) header) g
    Outcome.Shown (match ByteRange.parse header (UInt64.ofNat o.file.length) with
      | .ok r => o.part r
      | .error _ => o.refusal) svc g.nextSession r.withLength g' := by
  have hsize : (UInt64.ofNat o.file.length).toNat = o.file.length := toNat_fileSize small
  unfold Access.deliverRange
  simp only [headOnly_fileRequest get, offers.isEmpty_fileRequest, nonempty, decide_false,
    Bool.false_eq_true, ↓reduceIte]
  have hfile : (o.fileRequest request name).manifest.fileSize = UInt64.ofNat o.file.length := rfl
  cases parsed : ByteRange.parse header (UInt64.ofNat o.file.length) with
  | error refusal =>
    simp only [hfile, parsed]
    show o.refusal.Shown svc g.nextSession
      (Response.ofError (.rangeNotSatisfiable (UInt64.ofNat o.file.length))).withLength g
    rw [Response.withLength_rangeNotSatisfiable]
    refine ⟨rfl, ?_, ?_, Body.yields_known_nil g, rfl⟩
    · simp [Header.get?, Offer.refusal]
    · show some s!"bytes */{(UInt64.ofNat o.file.length).toNat}" =
        some s!"bytes */{o.file.length}"
      rw [hsize]
  | ok r =>
    have inside := ByteRange.within_of_parse parsed
    have hlt := inside.toNat_lt
    have hle := inside.toNat_le
    rw [hsize] at hlt
    have hlength := r.toNat_length inside.ordered inside.length_lt
    have started := offers.started_range plain small good svc.buffer inside
    have hbody : (o.part r).body.length = (o.part r).contentLength := by
      show ((o.file.take (r.last.toNat + 1)).drop r.first.toNat).length =
        r.last.toNat - r.first.toNat + 1
      rw [List.length_drop, List.length_take]
      omega
    simp only [hfile, parsed, hlength]
    have countable : (o.part r).contentLength < UInt64.size := by
      show r.last.toNat - r.first.toNat + 1 < UInt64.size
      omega
    refine Access.shown_startSession (o.part r) started hbody (Nat.succ_ne_zero _) countable rfl
      request.connection .range _ ?_ ?_
    · rw [Delivery.contentLength_range]
      show some (toString r.length.toNat) = _
      rw [hlength]
      rfl
    · rw [Delivery.contentRange_range]
      show some s!"bytes {r.first}-{r.last}/{(UInt64.ofNat o.file.length).toNat}" =
        some s!"bytes {r.first}-{r.last}/{o.file.length}"
      rw [hsize]

end Services.Offers

/-! ## Requests for files -/

namespace Services.Offers

/-- Whatever is found, the delivery of a file shows what the client is to get. -/
theorem shown_deliver (offers : svc.Offers shelf token o) (small : o.file.length < UInt64.size)
    {g : Gateway World} (good : shelf.good [] g.world) {request : Request}
    (get : request.method = .get) (name : String) :
    let (r, g') := Gateway.settle (deliver svc o request name) g
    (o.outcome request.range).Shown svc g.nextSession r.withLength g' := by
  unfold deliver Offer.outcome
  by_cases empty : o.file.length = 0
  · simp only [empty, ↓reduceIte]
    cases o.key with
    | none =>
      cases request.range with
      | none => exact offers.shown_deliverFile_empty empty none request name g
      | some header => exact offers.shown_deliverRange_empty empty header request name g
    | some k => exact offers.shown_deliverFile_empty empty (some k) request name g
  · simp only [empty, ↓reduceIte]
    have whole := offers.shown_deliverFile empty small good get name
    cases key : o.key with
    | none =>
      rw [key] at whole
      cases request.range with
      | none => exact whole
      | some header => exact offers.shown_deliverRange key empty small good get name header
    | some k =>
      rw [key] at whole
      exact whole

end Services.Offers

namespace Gateway

variable {g : Gateway World} {request : Request} {route : Route}

/-- A request for a file, once its connection is free. -/
theorem respond_file (get : request.method = .get) (isFile : route.resource = .file)
    {name : String} (params : Route.decodeParams route.params = .ok [token, name]) :
    respond svc route request g =
      ((settle (Access.file svc request token name) g).1.withLength,
        (settle (Access.file svc request token name) g).2) := by
  have hfetch : fetch svc route request g = settle (Access.file svc request token name) g := by
    unfold fetch
    rw [params, isFile]
  unfold respond
  simp only [get, hfetch, isFile, isOpen, Bool.false_eq_true, ↓reduceIte, List.append_nil]

theorem shown_respond (offers : svc.Offers shelf token o) (small : o.file.length < UInt64.size)
    (good : shelf.good [] g.world) (get : request.method = .get)
    (fresh : hasCachedCopy request.headers = false) (isFile : route.resource = .file)
    {name : String} (params : Route.decodeParams route.params = .ok [token, name]) :
    (o.outcome request.range).Shown svc g.nextSession (respond svc route request g).1
      (respond svc route request g).2 := by
  obtain ⟨w, good', run⟩ := offers.run_file good fresh name
  have settled : settle (Access.file svc request token name) g =
      settle (Services.Offers.deliver svc o request name) (g.withWorld w) := by
    unfold settle
    rw [run]
  rw [respond_file get isFile params, settled]
  exact offers.shown_deliver small (g := g.withWorld w) good' get name

/-- Who looks at a slot that dispatches can go on. -/
theorem poll_idle {slot : Slot} (dispatching : slot.isDispatching) :
    Waiter.poll slot .idle = .done := by
  simp [Waiter.poll, Waiter.wake, Waiter.register, Waiter.look, dispatching]

/-- A request for a file waits, or its connection is free and it is answered. -/
theorem poll_file (svc : Services World Handle File) (g : Gateway World)
    (routed : Route.ofTarget? request.target = some route) (isFile : route.resource = .file)
    (waiter : Waiter) :
    (∃ conn w, request.connection = some conn ∧ waiter.poll (g.slot conn) ≠ .done ∧
      poll svc ⟨request, waiter⟩ g = (.waiting w, g)) ∨
    poll svc ⟨request, waiter⟩ g =
      (.ready (respond svc route request g).1, (respond svc route request g).2) := by
  have awaits : awaited route request = request.connection := by
    rw [awaited, isFile]
    rfl
  unfold poll
  simp only [routed, awaits]
  cases request.connection with
  | none => exact .inr rfl
  | some conn =>
    by_cases free : waiter.poll (g.slot conn) = .done
    · simp only [free, or_true]
    · refine .inl ⟨conn, ⟨request, waiter.poll (g.slot conn)⟩, rfl, free, ?_⟩
      dsimp only
      split
      · contradiction
      · rfl

theorem slot_touch (g : Gateway World) (conn : ConnectionId) :
    (g.touch conn).slot conn = g.slot conn := by
  unfold touch
  generalize g.slot conn = slot
  simp [Gateway.slot, setSlot, Table.get?_insert]

/-- Every request for a file on offer gets exactly the file, the range or the
refusal that it is to get, whenever it is answered; on a connection that dispatches
it is answered at once. -/
theorem file_request_exact (offers : svc.Offers shelf token o)
    (small : o.file.length < UInt64.size) (good : shelf.good [] g.world)
    (get : request.method = .get) (fresh : hasCachedCopy request.headers = false)
    (routed : Route.ofTarget? request.target = some route) (isFile : route.resource = .file)
    {name : String} (params : Route.decodeParams route.params = .ok [token, name]) :
    (∀ waiter r g', poll svc ⟨request, waiter⟩ g = (.ready r, g') →
      (o.outcome request.range).Shown svc g.nextSession r g') ∧
    ((∀ conn, request.connection = some conn → (g.slot conn).isDispatching) →
      ∃ r g', send svc request g = (.ready r, g') ∧
        (o.outcome request.range).Shown svc g.nextSession r g') := by
  have shown (g : Gateway World) (good : shelf.good [] g.world) :=
    shown_respond offers small good get fresh isFile params
  constructor
  · intro waiter r g' polled
    rcases poll_file svc g routed isFile waiter with ⟨_, _, -, -, waits⟩ | answered
    · rw [waits] at polled
      cases polled
    · rw [answered] at polled
      cases polled
      exact shown g good
  · intro dispatching
    have free (g' : Gateway World)
        (slots : ∀ conn, request.connection = some conn → g'.slot conn = g.slot conn) :
        poll svc ⟨request, .idle⟩ g' =
          (.ready (respond svc route request g').1, (respond svc route request g').2) := by
      rcases poll_file svc g' routed isFile .idle with ⟨conn, _, connected, busy, -⟩ | answered
      · rw [slots conn connected] at busy
        exact absurd (poll_idle (dispatching conn connected)) busy
      · exact answered
    unfold send
    cases connection : request.connection with
    | none => exact ⟨_, _, free g (fun _ _ => rfl), shown g good⟩
    | some conn =>
      refine ⟨_, _, free (g.touch conn) (fun c hc => ?_), shown (g.touch conn) good⟩
      rw [connection] at hc
      cases hc
      exact slot_touch g conn

end Gateway

/-- A file of two equal pieces, each named by what is stored of it. -/
def Offer.twoPieces (key : Option CipherKey) : Offer where
  grant := ⟨"repo", "object", .download, "user"⟩
  repo := ⟨"repo", "store", 1, key.isSome, 1⟩
  key := key
  file := [7, 8, 7, 8]
  blockSize := 2
  ids := List.replicate 2 (BlockId.ofContent ((Block.ofContent [7, 8]).stored key).data)

namespace MemoryWorld

/-- A world in memory with this file; its token is `t`. -/
def withPieces (key : Option CipherKey) (material : KeyMaterial) : MemoryWorld :=
  (empty {} {}).putIn "t" (.twoPieces key) material

theorem parts_twoPieces (key : Option CipherKey) :
    (Offer.twoPieces key).parts = [[7, 8], [7, 8]] := by
  simp [Offer.parts, Offer.twoPieces, Bytes.pieces]

theorem stocks_withPieces {key : Option CipherKey} {material : KeyMaterial}
    (opens : ∀ k, key = some k → material.cipherKey 1 = .ok k) :
    (withPieces key material).Stocks "t" (.twoPieces key) := by
  have same : ∀ b ∈ (Offer.twoPieces key).blocks, b.data = (Offer.twoPieces key).stored [7, 8] := by
    intro b mem
    rw [Offer.blocks, parts_twoPieces] at mem
    simp only [Offer.twoPieces, List.replicate, List.map_cons, List.map_nil, List.zipWith_cons_cons,
      List.zipWith_nil_left, List.mem_cons, List.not_mem_nil, or_false, or_self] at mem
    rw [mem]
    rfl
  refine stocks_putIn _ "t" _ material ?_ ?_ rfl ?_ rfl FaultPlan.onlySlows_empty
  · rw [parts_twoPieces]
    rfl
  · exact fun b mem b' mem' _ => (same b mem).trans (same b' mem').symm
  · cases key with
    | none => rfl
    | some k => exact ⟨rfl, opens k rfl⟩

end MemoryWorld

namespace Gateway

/-- The same request for bytes from the middle of a file, on a connection that was never
used.  From a file that was stored as it is it gets these bytes, from an encrypted one all. -/
theorem file_request_of_memory :
    let k : CipherKey := ⟨.aes128, List.replicate 16 5, List.replicate 16 6, rfl, rfl⟩
    let material : KeyMaterial := ⟨Hex.encode k.key, Hex.encode k.iv⟩
    let plain := MemoryWorld.withPieces none material
    let locked := MemoryWorld.withPieces (some k) material
    let svc := MemoryWorld.services {} true ⟨⟨2024, 1, 1⟩, 0, 0, 0⟩
    let request : Request := ⟨.get, "/files/t/n", [("range", "bytes=1-2")], some "c"⟩
    ({} : MemoryBlocks).putFile ⟨"store", 1⟩ [7, 8, 7, 8] 2 =
        .ok ((Offer.twoPieces none).manifest, plain.blocks.inner.inner) ∧
      (∃ r g', Gateway.send svc request { world := plain } = (.ready r, g') ∧
        Outcome.Shown ⟨206, 2, some "bytes 1-2/4", [8, 7], 1⟩ svc 1 r g') ∧
      ∃ r g', Gateway.send svc request { world := locked } = (.ready r, g') ∧
        Outcome.Shown ⟨200, 4, none, [7, 8, 7, 8], 1⟩ svc 1 r g' := by
  intro k material plain locked svc request
  have routed : Route.ofTarget? request.target =
      some ⟨.file, [("token", "t"), ("filename", "n")]⟩ := by decide
  have params : Route.decodeParams [("token", "t"), ("filename", "n")] = .ok ["t", "n"] := by
    decide +kernel
  have opens : material.cipherKey 1 = .ok k := by
    show CipherKey.ofHex 1 (Hex.encode k.key) (Hex.encode k.iv) = _
    rw [CipherKey.ofHex_of_spells (Hex.spells_encode _) (Hex.spells_encode _)]
    rfl
  have stocks : plain.Stocks "t" (.twoPieces none) :=
    MemoryWorld.stocks_withPieces fun k none => by cases none
  have stocks' : locked.Stocks "t" (.twoPieces (some k)) :=
    MemoryWorld.stocks_withPieces fun k' same => by cases same; exact opens
  have offers := MemoryWorld.offers stocks {} true ⟨⟨2024, 1, 1⟩, 0, 0, 0⟩ rfl
  have offers' := MemoryWorld.offers stocks' {} true ⟨⟨2024, 1, 1⟩, 0, 0, 0⟩ rfl
  refine ⟨?_, ?_, ?_⟩
  · have named : (Offer.twoPieces none).ids =
        (Offer.twoPieces none).parts.map BlockId.ofContent := by
      rw [MemoryWorld.parts_twoPieces]
      rfl
    have split : SplitFile.split [7, 8, 7, 8] 2 = .ok ⟨_, _⟩ :=
      Offer.split_eq (o := .twoPieces none) (by decide) rfl named
    unfold MemoryBlocks.putFile
    rw [split]
    rfl
  · have outcome : (Offer.twoPieces none).outcome request.range =
        ⟨206, 2, some "bytes 1-2/4", [8, 7], 1⟩ := by decide +kernel
    rw [← outcome]
    exact (file_request_exact offers (by decide) (MemoryWorld.good_shelf stocks) rfl (by decide)
      routed rfl params).2 fun conn _ => rfl
  · have outcome : (Offer.twoPieces (some k)).outcome request.range =
        ⟨200, 4, none, [7, 8, 7, 8], 1⟩ := rfl
    rw [← outcome]
    exact (file_request_exact offers' (by decide) (MemoryWorld.good_shelf stocks') rfl (by decide)
      routed rfl params).2 fun conn _ => rfl

end Gateway

end StreamGate
