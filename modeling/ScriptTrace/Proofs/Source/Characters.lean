import ScriptTrace.Proofs.Text.Utf8
import ScriptTrace.Source.Cursor

/-! A cursor between two characters of a line.
Where a class of bytes holds of all bytes of a character or of none, a cursor that passes the bytes of
the class passes whole characters. What it has passed since such a place can always be read. -/
namespace ScriptTrace

namespace Utf8
variable {p : UInt8 → Bool} {q : Char → Bool} {c : Char}

theorem encodeChar_of_lt (h : c.toNat < 0x80) :
    String.utf8EncodeChar c = [UInt8.ofNat c.toNat] :=
  if_pos (Nat.le_of_lt_succ h)

theorem encode_cons (c : Char) (s : Text) : encode (c :: s) = String.utf8EncodeChar c ++ encode s :=
  List.flatMap_cons

theorem encode_append (a b : Text) : encode (a ++ b) = encode a ++ encode b :=
  List.flatMap_append

/-- A byte is in the one class just when the character that it writes is in the other. -/
def Agrees (p : UInt8 → Bool) (q : Char → Bool) : Prop :=
  ∀ c, ∀ b ∈ String.utf8EncodeChar c, p b = q c

theorem Agrees.not (h : Agrees p q) : Agrees (fun b => !p b) fun c => !q c :=
  fun c b hb => congrArg (!·) (h c b hb)

/-- Classes that hold of the same numbers agree, if these are numbers of single bytes. -/
theorem agrees_of_toNat {r : Nat → Bool} (hr : ∀ n, 0x80 ≤ n → r n = false)
    (hp : ∀ b, p b = r b.toNat) (hq : ∀ c, q c = r c.toNat) : Agrees p q := by
  intro c b hb
  rw [hp, hq]
  by_cases hl : b.toNat < 0x80
  · rw [toNat_of_mem_encodeChar hb hl]
  · have hc : ¬ c.toNat < 0x80 := by
      intro hc
      rw [encodeChar_of_lt hc, List.mem_singleton] at hb
      rw [hb, UInt8.toNat_ofNat'] at hl
      exact hl ((Nat.mod_le _ _).trans_lt hc)
    rw [hr _ (Nat.not_lt.1 hl), hr _ (Nat.not_lt.1 hc)]

/-- A character of one byte is found by its byte. -/
theorem agrees_byte (hc : c.toNat < 0x80) :
    Agrees (fun b => b = UInt8.ofNat c.toNat) fun d => d = c := by
  refine agrees_of_toNat (r := fun n => n = c.toNat) ?_ ?_ ?_
  · intro n hn
    exact decide_eq_false (by omega)
  · intro b
    rw [decide_eq_decide, ← UInt8.toNat_inj, UInt8.toNat_ofNat', Nat.mod_eq_of_lt (by omega)]
  · intro d
    rw [decide_eq_decide, Char.toNat_inj]

theorem Agrees.or {p' : UInt8 → Bool} {q' : Char → Bool} (h : Agrees p q) (h' : Agrees p' q') :
    Agrees (fun b => p b || p' b) fun c => q c || q' c :=
  fun c b hb => congrArg₂ (· || ·) (h c b hb) (h' c b hb)

private theorem Agrees.takeWhile_encode (h : Agrees p q) (s : Text) :
    (encode s).takeWhile p = encode (s.takeWhile q) := by
  induction s with
  | nil => rfl
  | cons c s ih =>
    have hb := h c
    rw [encode_cons]
    cases hq : q c with
    | true =>
      rw [hq] at hb
      rw [List.takeWhile_append_of_pos hb, ih, List.takeWhile_cons_of_pos hq, encode_cons]
    | false =>
      obtain ⟨b, bytes, he⟩ := List.exists_cons_of_ne_nil String.utf8EncodeChar_ne_nil
      have hf : ¬ p b = true := by
        rw [hb b (he ▸ List.mem_cons_self), hq]
        exact Bool.false_ne_true
      rw [he, List.cons_append, List.takeWhile_cons_of_neg hf,
        List.takeWhile_cons_of_neg (by simp [hq])]
      rfl

private theorem Agrees.dropWhile_encode (h : Agrees p q) (s : Text) :
    (encode s).dropWhile p = encode (s.dropWhile q) := by
  have hs : (encode s).takeWhile p ++ (encode s).dropWhile p =
      encode (s.takeWhile q) ++ encode (s.dropWhile q) := by
    rw [List.takeWhile_append_dropWhile, ← encode_append, List.takeWhile_append_dropWhile]
  rw [h.takeWhile_encode] at hs
  exact List.append_cancel_left hs

/-- The first byte tells whether a certain character of one byte comes first. -/
theorem head?_encode_eq_iff (hc : c.toNat < 0x80) {s : Text} :
    (encode s).head? = some (UInt8.ofNat c.toNat) ↔ s.head? = some c := by
  cases s with
  | nil => exact iff_of_false (by simp [encode]) (by simp)
  | cons d s =>
    rw [encode_cons, List.head?_cons, Option.some_inj]
    constructor
    · intro h
      have hm : UInt8.ofNat c.toNat ∈ String.utf8EncodeChar d := by
        obtain ⟨b, bytes, he⟩ := List.exists_cons_of_ne_nil String.utf8EncodeChar_ne_nil
        rw [he, List.cons_append, List.head?_cons, Option.some_inj] at h
        rw [he, h]
        exact List.mem_cons_self
      have hn : (UInt8.ofNat c.toNat).toNat = c.toNat := by
        rw [UInt8.toNat_ofNat']
        exact Nat.mod_eq_of_lt (by omega)
      rw [← Char.toNat_inj, toNat_of_mem_encodeChar hm (hn.trans_lt hc), hn]
    · rintro rfl
      rw [encodeChar_of_lt hc]
      rfl

end Utf8

namespace Source.Cursor
open Utf8
variable {p : UInt8 → Bool} {q : Char → Bool}

def between (before after : Text) : Cursor :=
  ⟨(encode before).reverse, encode after⟩

def bytesFrom (c : Cursor) (start : Nat) : Bytes :=
  c.passed.reverse.drop start

theorem ofText_eq_between (line : Text) : ofText line = between [] line := rfl

/-- The cursor passes the characters of a class and stands between two characters again. -/
theorem skipWhile_between (h : Agrees p q) (before after : Text) :
    ((between before after).skipWhile p).2 =
      between (before ++ after.takeWhile q) (after.dropWhile q) := by
  simp only [skipWhile, between, h.takeWhile_encode, h.dropWhile_encode, encode_append,
    List.reverse_append]

/-- The bytes that were passed between two such places write the text between them. -/
theorem bytesFrom_between (before between' after rest : Text) :
    (between (before ++ between') after).bytesFrom (between before rest).pos = encode between' := by
  simp [bytesFrom, between, pos, encode_append]

theorem peek_between_eq_iff {c : Char} (hc : c.toNat < 0x80) {before after : Text} :
    (between before after).peek = some (UInt8.ofNat c.toNat) ↔ after.head? = some c :=
  head?_encode_eq_iff hc

theorem atEnd_between_cons (before : Text) (c : Char) (after : Text) :
    (between before (c :: after)).atEnd = false := by
  obtain ⟨b, bytes, he⟩ := List.exists_cons_of_ne_nil String.utf8EncodeChar_ne_nil
  rw [atEnd, between, encode_cons, he]
  rfl

theorem accept_between_of_head? {c : Char} (hc : c.toNat < 0x80) (before after : Text) :
    (between before (c :: after)).accept (UInt8.ofNat c.toNat) =
      (true, between (before ++ [c]) after) := by
  simp [accept, peek, advance, between, encode, encodeChar_of_lt hc]

theorem accept_between_of_ne {c : Char} (hc : c.toNat < 0x80) {before after : Text}
    (ha : after.head? ≠ some c) :
    (between before after).accept (UInt8.ofNat c.toNat) = (false, between before after) :=
  if_neg fun h => ha ((head?_encode_eq_iff hc).1 h)

theorem accept_between_fst {c : Char} (hc : c.toNat < 0x80) (before after : Text) :
    ((between before after).accept (UInt8.ofNat c.toNat)).1 = decide (after.head? = some c) := by
  by_cases ha : after.head? = some c
  · obtain ⟨rest, rfl⟩ := List.head?_eq_some_iff.1 ha
    rw [accept_between_of_head? hc, decide_eq_true ha]
  · rw [accept_between_of_ne hc ha, decide_eq_false ha]

/-- A slice is the text of its bytes if they are one, and empty otherwise. -/
theorem sliceFrom_eq (c : Cursor) (start : Nat) :
    c.sliceFrom start = (decode? (c.bytesFrom start)).getD [] := rfl

end Source.Cursor
end ScriptTrace
