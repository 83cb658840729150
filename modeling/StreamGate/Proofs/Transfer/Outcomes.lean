import StreamGate.Transfer.Cursor

/-!
# The turns of a cursor

What one turn can do, whatever the store answers.

* `Cursor.Outcome` lists what a turn within an open block comes to, and
  `Cursor.outcome_turnOpen` says that there is nothing else.
* `Cursor.turn_keeps`: what all of these have in common is so of every turn.  No turn touches the
  count or the key, and none hands out an empty piece.
-/

namespace StreamGate.Cursor

variable {World Handle : Type} {bs : BlockStore World Handle} {c : Cursor Handle}
  {b : OpenBlock Handle} {h : c.index < c.blocks.length} {w : World}

/-! ## Within a block -/

theorem decryptor_readBlock (bs : BlockStore World Handle) (b : OpenBlock Handle) (want : Nat)
    (w : World) : (readBlock bs b want w).2.1.decryptor = b.decryptor := by
  unfold readBlock
  split <;> rfl

theorem length_readBlock {b' : OpenBlock Handle} {want : Nat} {w' : World} {bytes : Bytes}
    (taken : readBlock bs b want w = (.ok bytes, b', w')) : bytes.length ≤ want := by
  unfold readBlock at taken
  split at taken
  · cases taken
  · rename_i answer _ _ _
    cases taken
    exact answer.property

/-- What a turn within an open block can come to. -/
inductive Outcome (bs : BlockStore World Handle) (c : Cursor Handle) (b : OpenBlock Handle)
    (h : c.index < c.blocks.length) (w : World) :
    Except TransferError (Option Bytes) × Cursor Handle × World → Prop
  /-- It fails, with the block still open. -/
  | failed (e : TransferError) (b' : OpenBlock Handle) (w' : World) :
      Outcome bs c b h w (.error e, c.holding b' h, w')
  /-- Bytes of a block that is stored as it is. -/
  | read {piece : Bytes} {b' : OpenBlock Handle} {w' : World} (plain : c.key = none)
      (taken : readBlock bs b (min c.remaining c.buffer) w = (.ok piece, b', w'))
      (some : piece ≠ []) : Outcome bs c b h w (.ok (.some piece), c.holding b' h, w')
  /-- Such a block is exhausted. -/
  | exhausted {b' : OpenBlock Handle} {w' : World} (plain : c.key = none)
      (taken : readBlock bs b (min c.remaining c.buffer) w = (.ok [], b', w')) :
      Outcome bs c b h w (.ok none, c.advance bs b' w')
  /-- A piece of ciphertext, with more of the block to come. -/
  | decrypted {piece : Bytes} {b' : OpenBlock Handle} {w' : World} {d : Decryptor}
      (encrypted : c.key.isSome)
      (taken : readBlock bs b (min b.left c.buffer) w = (.ok piece, b', w')) (some : piece ≠ [])
      (decryptor : b.decryptor = .some d) :
      Outcome bs c b h w (.ok (someBytes (d.update piece).1),
        c.holding { b' with decryptor := (d.update piece).2 } h, w')
  /-- The last of the ciphertext. -/
  | finished {piece last : Bytes} {b' : OpenBlock Handle} {w' : World} {d : Decryptor}
      (encrypted : c.key.isSome)
      (taken : readBlock bs b (min b.left c.buffer) w = (.ok piece, b', w'))
      (decryptor : b.decryptor = .some d) (ended : (d.update piece).2.finish = .ok last) :
      Outcome bs c b h w (.ok (someBytes ((d.update piece).1 ++ last)),
        c.advance bs { b' with decryptor := (d.update piece).2 } w')
  /-- The end of a block that has no ciphertext to read. -/
  | unread {last : Bytes} {d : Decryptor} (encrypted : c.key.isSome)
      (decryptor : b.decryptor = .some d) (ended : d.finish = .ok last) :
      Outcome bs c b h w (.ok (someBytes last), c.advance bs b w)

theorem outcome_turnPlain (plain : c.key = none) :
    Outcome bs c b h w (turnPlain bs c b h w) := by
  unfold turnPlain
  generalize taken : readBlock bs b (min c.remaining c.buffer) w = answer
  obtain ⟨e | piece, b', w'⟩ := answer
  · exact .failed e b' w'
  · cases piece with
    | nil => exact .exhausted plain taken
    | cons x more => exact .read plain taken (List.cons_ne_nil x more)

theorem outcome_turnEncrypted (encrypted : c.key.isSome) :
    Outcome bs c b h w (turnEncrypted bs c b h w) := by
  unfold turnEncrypted
  by_cases nothing : b.left = 0
  · rw [if_pos nothing, finishBlock, if_pos nothing]
    cases decryptor : b.decryptor with
    | none => exact .failed _ b w
    | some d =>
      dsimp only
      cases ended : d.finish with
      | error e => exact .failed _ _ w
      | ok last => exact .unread encrypted decryptor ended
  · rw [if_neg nothing]
    have same := decryptor_readBlock bs b (min b.left c.buffer) w
    generalize taken : readBlock bs b (min b.left c.buffer) w = answer at same ⊢
    obtain ⟨e | piece, b', w'⟩ := answer
    · exact .failed e b' w'
    · cases piece with
      | nil => exact .failed _ b' w'
      | cons x more =>
        unfold decryptPiece
        dsimp only at same ⊢
        cases decryptor : b.decryptor with
        | none =>
          rw [same, decryptor]
          exact .failed _ b' w'
        | some d =>
          rw [same, decryptor]
          dsimp only
          unfold finishBlock
          dsimp only
          split
          · cases ended : (d.update (x :: more)).2.finish with
            | error e => exact .failed _ _ w'
            | ok last => exact .finished encrypted taken decryptor ended
          · exact .decrypted encrypted taken (List.cons_ne_nil x more) decryptor

theorem outcome_turnOpen (bs : BlockStore World Handle) (c : Cursor Handle) (b : OpenBlock Handle)
    (h : c.index < c.blocks.length) (w : World) : Outcome bs c b h w (turnOpen bs c b h w) := by
  unfold turnOpen
  cases key : c.key with
  | none => exact outcome_turnPlain key
  | some k => exact outcome_turnEncrypted (by rw [key]; rfl)

/-! ## Any turn -/

/-- What is so of every outcome within a block, and of a turn that finds no block to open, is so
of every turn. -/
theorem turn_keeps {P : Except TransferError (Option Bytes) × Cursor Handle × World → Prop}
    (outcome : ∀ {b h w out}, Outcome bs c b h w out → P out)
    (refused : ∀ e w, P (.error e, c, w)) (w : World) : P (c.turn bs w) := by
  unfold turn
  split
  · exact outcome (outcome_turnOpen ..)
  · split
    · split
      · exact refused _ _
      · exact outcome (outcome_turnOpen ..)
    · exact refused _ w

/-- A turn does not count what it hands out. -/
theorem remaining_turn (bs : BlockStore World Handle) (c : Cursor Handle) (w : World) :
    (c.turn bs w).2.1.remaining = c.remaining := by
  refine turn_keeps (P := fun out => out.2.1.remaining = c.remaining) (fun outcome => ?_)
    (fun _ _ => rfl) w
  cases outcome <;> rfl

/-- A turn leaves the key alone. -/
theorem key_turn (bs : BlockStore World Handle) (c : Cursor Handle) (w : World) :
    (c.turn bs w).2.1.key = c.key := by
  refine turn_keeps (P := fun out => out.2.1.key = c.key) (fun outcome => ?_) (fun _ _ => rfl) w
  cases outcome <;> rfl

theorem someBytes_eq_none {bytes : Bytes} (nothing : someBytes bytes = none) : bytes = [] := by
  cases bytes with
  | nil => rfl
  | cons x more => cases nothing

theorem getD_someBytes (data : Bytes) : (someBytes data).getD [] = data := by
  cases data <;> rfl

/-- A turn hands out no empty piece. -/
def Solid (r : Except TransferError (Option Bytes)) : Prop := r ≠ .ok (some [])

theorem solid_someBytes (bytes : Bytes) : Solid (.ok (someBytes bytes)) := by
  intro same
  cases bytes with
  | nil => cases same
  | cons x more => cases same

theorem solid_turn (bs : BlockStore World Handle) (c : Cursor Handle) (w : World) :
    Solid (c.turn bs w).1 := by
  refine turn_keeps (P := fun out => Solid out.1) (fun outcome => ?_) (fun e _ same => ?_) w
  · cases outcome with
    | failed => exact fun same => by cases same
    | read plain taken some => exact fun same => some (Option.some.inj (Except.ok.inj same))
    | exhausted => exact fun same => by cases same
    | decrypted => exact solid_someBytes _
    | finished => exact solid_someBytes _
    | unread => exact solid_someBytes _
  · cases same

end StreamGate.Cursor
