import Mathlib.Data.List.Basic
import StreamGate.Http.Headers
import StreamGate.Proofs.Text.Encoding

/-!
# The name a disposition gives

The four kinds of delivery each give one disposition, and it holds the name in quotes.
Control characters are left out of it, and nothing else is: a quote in the name goes out as it
is.  So a reader who takes the name to end at the next quote gets the whole name exactly if
there is no quote in it.  Otherwise the name ends at its first quote, and what is behind that
quote is taken for more parameters.

* `Header.ofText_value`: leaving characters out is leaving bytes out.
* `Disposition.read?`: what a reader makes of a disposition.
* `Disposition.Names`: headers that give exactly one name.
* `Disposition.Carries`: what the headers of every delivery do.
* `Disposition.name_carried`: they do it.
-/

namespace StreamGate

/-! ## Control characters -/

namespace Header

/-- A control character of ASCII. -/
def isControl (c : Char) : Bool := c.toNat < 0x20 || c.toNat = 0x7f

/-- A text without its control characters, tabs aside. -/
def clean (text : String) : String :=
  String.ofList (text.toList.filter fun c => !isControl c || c = '\t')

/-- A byte that may stand in a value. -/
def allowedByte (b : UInt8) : Bool := b = 9 || (0x20 ≤ b && b ≠ 0x7f)

theorem allowed_eq (c : Char) : allowed c = (!isControl c || c = '\t') := by
  unfold allowed isControl
  grind

theorem value_eq_clean (text : String) : value text = clean text :=
  congrArg String.ofList (List.filter_congr fun c _ => allowed_eq c)

theorem value_append (a b : String) : value (a ++ b) = value a ++ value b := by
  simp [value]

theorem value_eq_self {text : String} (plain : text.toList.all allowed = true) :
    value text = text := by
  rw [value, List.filter_eq_self.2 (List.all_eq_true.1 plain), String.ofList_toList]

theorem tab_of_isControl {text : String} {c : Char} (mem : c ∈ (value text).toList)
    (control : isControl c = true) : c = '\t' := by
  rw [value, String.toList_ofList, List.mem_filter, allowed_eq, control] at mem
  simpa using mem.2

/-- The bytes of a value are the bytes of the text that may stand in one. -/
theorem ofText_value (text : String) :
    Bytes.ofText (value text) = (Bytes.ofText text).filter allowedByte := by
  have passes : ∀ b : UInt8, 128 ≤ b.toNat → allowedByte b = true := by
    intro b above
    have printable : 0x20 ≤ b := UInt8.le_iff_toNat_le.2 (Nat.le_trans (by decide) above)
    have noDelete : b ≠ 0x7f := fun same => absurd (same ▸ above) (by decide)
    simp [allowedByte, printable, noDelete]
  have high : ∀ c : Char, 128 ≤ c.toNat → allowed c = true := by
    intro c above
    unfold allowed
    grind
  have ascii : ∀ c : Char, c.toNat < 128 → allowedByte (UInt8.ofNat c.toNat) = allowed c := by
    have checked : ∀ n < 128, allowedByte (UInt8.ofNat n) = allowed (Char.ofNat n) := by decide
    intro c low
    rw [checked _ low, Char.ofNat_toNat]
  rw [Bytes.ofText_eq_flatMap, Bytes.ofText_eq_flatMap, value, String.toList_ofList]
  induction text.toList with
  | nil => rfl
  | cons c rest ih =>
    rw [List.flatMap_cons, List.filter_append, ← ih,
      Bytes.filter_utf8EncodeChar passes (ascii c) (high c), List.filter_cons]
    split <;> rfl

end Header

namespace Disposition

/-! ## Reading a disposition -/

/-- How the parameter with the name begins. -/
inductive Form where
  | plain
  | extended
deriving DecidableEq, Repr

/-- The parameter up to the name. -/
def Form.opening : Form → String
  | plain => ";filename=\""
  | extended => ";filename*=\"utf-8' '"

/-- The disposition up to the name. -/
def opening (mode : Mode) (form : Form) : String := mode.name ++ form.opening

/-- What a disposition says to a reader. -/
structure Reading where
  mode : Mode
  form : Form
  name : String
  /-- What is behind the closing quote. -/
  behind : String
deriving DecidableEq, Repr

/-- The characters up to the next quote, and those behind it. -/
def quoted? : List Char → Option (List Char × List Char)
  | [] => none
  | c :: rest =>
    if c = '"' then some ([], rest)
    else (quoted? rest).map fun (name, behind) => (c :: name, behind)

/-- What a text says that begins in a given way. -/
def readAs? (text : String) (mode : Mode) (form : Form) : Option Reading := do
  let rest ← text.toList.dropPrefix? (opening mode form).toList
  let (name, behind) ← quoted? rest
  return ⟨mode, form, String.ofList name, String.ofList behind⟩

/-- What a disposition says to a reader who takes the name to end at the next quote. -/
def read? (text : String) : Option Reading :=
  [(.attachment, .plain), (.attachment, .extended), (.inline, .plain),
    (.inline, .extended)].findSome? fun (mode, form) => readAs? text mode form

theorem quoted?_append {name : List Char} (unquoted : '"' ∉ name) (behind : List Char) :
    quoted? (name ++ '"' :: behind) = some (name, behind) := by
  induction name with
  | nil => rfl
  | cons c rest ih =>
    rw [List.mem_cons, not_or] at unquoted
    rw [List.cons_append, quoted?, if_neg (Ne.symm unquoted.1), ih unquoted.2]
    rfl

/-- No disposition begins in two ways. -/
theorem readAs?_other {mode mode' : Mode} {form form' : Form} (rest : String)
    (other : (mode, form) ≠ (mode', form')) :
    readAs? (opening mode form ++ rest) mode' form' = none := by
  rw [readAs?, String.toList_append]
  cases mode <;> cases form <;> cases mode' <;> cases form' <;>
    first | exact absurd rfl other | rfl

/-- The name ends at the next quote, and what is behind it is kept apart. -/
theorem read?_quoted (mode : Mode) (form : Form) {name : String} (unquoted : '"' ∉ name.toList)
    (behind : String) : read? (opening mode form ++ (name ++ "\"" ++ behind)) =
      some ⟨mode, form, name, behind⟩ := by
  have characters : (name ++ "\"" ++ behind).toList = name.toList ++ '"' :: behind.toList := by
    rw [String.toList_append, String.toList_append, List.append_assoc]
    rfl
  have here : readAs? (opening mode form ++ (name ++ "\"" ++ behind)) mode form =
      some ⟨mode, form, name, behind⟩ := by
    rw [readAs?, String.toList_append, List.dropPrefix?_append_of_beq _ (beq_self_eq_true _)]
    simp only [Option.bind_eq_bind, Option.bind_some, characters, quoted?_append unquoted,
      Option.pure_def, String.ofList_toList]
  have others : ∀ mode' form', (mode, form) ≠ (mode', form') →
      readAs? (opening mode form ++ (name ++ "\"" ++ behind)) mode' form' = none :=
    fun _ _ => readAs?_other _
  cases mode <;> cases form <;> simp [read?, List.findSome?, here, others]

/-! ## Dispositions as they are written -/

/-- A disposition with a name in quotes. -/
def written (mode : Mode) (form : Form) (name : String) : String :=
  opening mode form ++ (name ++ "\"")

theorem byAgent_eq (mode : Mode) (name : String) (firefox : Bool) :
    byAgent mode name firefox = written mode (if firefox then .extended else .plain) name := by
  cases firefox <;> exact String.append_assoc ..

/-- A text is a disposition with this name in quotes. -/
def IsWritten (text name : String) : Prop := ∃ mode form, text = written mode form name

theorem isWritten_byAgent (mode : Mode) (name : String) (firefox : Bool) :
    IsWritten (byAgent mode name firefox) name := ⟨_, _, byAgent_eq mode name firefox⟩

theorem isWritten_file (op : Operation) (name : String) (firefox : Bool) :
    IsWritten (file op name firefox) name := by
  have saved : IsWritten (extended .attachment name) name := isWritten_byAgent _ name true
  have shown := isWritten_byAgent .inline name firefox
  cases op <;> first | exact saved | exact shown

theorem isWritten_range (op : Operation) (name : String) (firefox : Bool) :
    IsWritten (range op name firefox) name := by
  have saved := isWritten_byAgent .attachment name firefox
  have shown := isWritten_byAgent .inline name firefox
  cases op <;> first | exact saved | exact shown

theorem isWritten_block (id : String) (firefox : Bool) : IsWritten (block id firefox) id :=
  isWritten_byAgent .attachment id firefox

theorem isWritten_archive (name : String) : IsWritten (archive name) (name ++ ".zip") :=
  isWritten_byAgent .attachment (name ++ ".zip") false

theorem value_written (mode : Mode) (form : Form) (name : String) :
    Header.value (written mode form name) = written mode form (Header.clean name) := by
  have opens : Header.value (opening mode form) = opening mode form :=
    Header.value_eq_self (by cases mode <;> cases form <;> decide)
  have closes : Header.value "\"" = "\"" := Header.value_eq_self (by decide)
  rw [written, Header.value_append, Header.value_append, opens, closes, Header.value_eq_clean]
  rfl

theorem quote_mem_clean {name : String} :
    '"' ∈ (Header.clean name).toList ↔ '"' ∈ name.toList := by
  simp [Header.clean, Header.isControl]

/-! ## Headers that name a file -/

/-- Headers give their disposition once, with this value. -/
def Given (headers : List Header) (value : String) : Prop :=
  headers.filter (fun h => h.1 = "content-disposition") = [("content-disposition", value)]

/-- Headers give one disposition, with no control characters but tabs.  It holds one parameter
with this name, control characters aside, and nothing behind it. -/
def Names (headers : List Header) (name : String) : Prop :=
  ∃ value mode form, Given headers value ∧
    (∀ c ∈ value.toList, Header.isControl c = true → c = '\t') ∧
    read? value = some ⟨mode, form, Header.clean name, ""⟩

/-- Headers give one disposition, with no control characters but tabs.  The name stands between
its first quote and its last, which ends it.  A reader gets the name exactly if it holds no
quote. -/
structure Carries (headers : List Header) (name : String) : Prop where
  whole : ∃ value mode form, Given headers value ∧
    (∀ c ∈ value.toList, Header.isControl c = true → c = '\t') ∧
    value = mode.name ++ form.opening ++ (Header.clean name ++ "\"") ∧
    Bytes.ofText value = (Bytes.ofText (written mode form name)).filter Header.allowedByte
  exact : Names headers name ↔ '"' ∉ name.toList

/-- The name that is read ends at its first quote. -/
theorem read?_written_of_quote (mode : Mode) (form : Form) {name : String}
    (quote : '"' ∈ name.toList) : ∃ front behind,
      read? (written mode form name) = some ⟨mode, form, front, behind ++ "\""⟩ := by
  obtain ⟨front, behind, split, none⟩ := List.eq_append_cons_of_mem quote
  have same : name = String.ofList front ++ ("\"" ++ String.ofList behind) := by
    refine String.toList_injective ?_
    simp only [split, String.toList_append, String.toList_ofList]
    rfl
  have cut : written mode form name =
      opening mode form ++ (String.ofList front ++ "\"" ++ (String.ofList behind ++ "\"")) := by
    simp only [written, same, String.append_assoc]
  refine ⟨String.ofList front, String.ofList behind, ?_⟩
  rw [cut]
  exact read?_quoted mode form (by rwa [String.toList_ofList]) _

/-- Headers carry the name that their disposition was written with. -/
theorem carries_of_given {headers : List Header} {text name : String}
    (given : Given headers (Header.value text)) (isWritten : IsWritten text name) :
    Carries headers name := by
  obtain ⟨mode, form, rfl⟩ := isWritten
  have free := fun c (mem : c ∈ (Header.value (written mode form name)).toList) control =>
    Header.tab_of_isControl mem control
  have bytes := Header.ofText_value (written mode form name)
  rw [value_written] at given free bytes
  refine ⟨⟨_, mode, form, given, free, rfl, bytes⟩, fun names quote => ?_, fun none => ?_⟩
  · obtain ⟨value, mode', form', given', -, reading⟩ := names
    obtain ⟨front, behind, reading'⟩ :=
      read?_written_of_quote mode form (quote_mem_clean.2 quote)
    have same := (List.cons.inj (given.symm.trans given')).1
    rw [← (Prod.mk.inj same).2, reading'] at reading
    have nothing : behind ++ "\"" = "" := (Reading.mk.inj (Option.some.inj reading)).2.2.2
    simp at nothing
  · have reading := read?_quoted mode form (fun quote => none (quote_mem_clean.1 quote)) ""
    rw [String.append_empty] at reading
    exact ⟨_, mode, form, given, free, reading⟩

section Deliveries

variable (d : Delivery) (now : Instant) (name : String) (op : Operation) (userAgent : Option String)

theorem carries_file (size : UInt64) : Carries (d.file now name op size userAgent) name :=
  carries_of_given (by simp [Given, Delivery.file, Delivery.caching, Delivery.content,
    Header.ofText]) (isWritten_file op name (isFirefox userAgent))

theorem carries_range (part : ByteRange) (size : UInt64) :
    Carries (d.range now name op part size userAgent) name :=
  carries_of_given (by simp [Given, Delivery.range, Delivery.caching, Delivery.content,
    Header.ofText]) (isWritten_range op name (isFirefox userAgent))

theorem carries_block (size : Nat) : Carries (d.block now name size userAgent) name :=
  carries_of_given (by simp [Given, Delivery.block, Delivery.caching, Header.ofText])
    (isWritten_block name (isFirefox userAgent))

theorem carries_archive (size : Nat) : Carries (d.archive now name size) (name ++ ".zip") :=
  carries_of_given (by simp [Given, Delivery.archive, Delivery.caching, Header.ofText])
    (isWritten_archive name)

/-- The headers of every delivery carry the name that they are made for, which for an archive
has an ending. -/
theorem name_carried (part : ByteRange) (fileSize : UInt64) (length : Nat) :
    Carries (d.file now name op fileSize userAgent) name ∧
      Carries (d.range now name op part fileSize userAgent) name ∧
      Carries (d.block now name length userAgent) name ∧
      Carries (d.archive now name length) (name ++ ".zip") :=
  ⟨carries_file d now name op userAgent fileSize,
    carries_range d now name op userAgent part fileSize,
    carries_block d now name userAgent length, carries_archive d now name length⟩

/-- A name that closes its quote adds a parameter of its own: a reader is given the name `a`
and then another one. -/
theorem name_closes_quote :
    ¬ Names (Delivery.file ⟨"sandbox", 3600⟩ ⟨⟨2024, 3, 5⟩, 10, 0, 0⟩ "a\";filename=\"b.exe" .view 1
      none) "a\";filename=\"b.exe" := by
  rw [(carries_file ..).exact, not_not]
  decide

end Deliveries

end Disposition

end StreamGate
