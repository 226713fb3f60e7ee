import ScriptTrace.Proofs.History.Blocks

/-! The records of a message history, read from its first line to its last.
All that has to be kept from the lines above is the place of a header that is still open. -/
namespace ScriptTrace.History
open Text

def headerPlace? (line : Text) : Option Text :=
  match LineKind.classify line with
  | .header place => some place
  | _ => none

/-- The records of lines below an open header, if `above` has the place of one. -/
def blocks (above : Option Text) : List Text → List ErrorRecord
  | [] => []
  | line :: ls =>
    match LineKind.classify line, above with
    | .lineNumber digits, some place =>
      if ls.takeWhile isMessage = [] then blocks none ls
      else
        ⟨Throwpoint.bracketed place digits, ls.takeWhile isMessage⟩ ::
          blocks (some place) (ls.dropWhile isMessage)
    | _, _ => blocks (headerPlace? line) ls
termination_by ls => ls.length
decreasing_by
  all_goals first
    | exact Nat.lt_succ_self _
    | exact Nat.lt_succ_of_le (List.length_dropWhile_le _ _)

/-- A header above line `i` has this place, or the open header has it, with only complete groups
between the two. -/
def HeadedFrom (above : Option Text) (ls : List Text) (i : Nat) (place : Text) : Prop :=
  (above = some place ∧ Grouped (ls.take i)) ∨ Headed ls i place

def RecordFrom (above : Option Text) (ls : List Text) (i : Nat) (r : ErrorRecord) : Prop :=
  ∃ place, HeadedFrom above ls i place ∧ NumberedAt ls i place r

/-- Without an open header the records of some lines are their records alone. -/
theorem recordFrom_none {ls : List Text} : RecordFrom none ls = RecordAt ls := by
  funext i r
  simp [RecordFrom, RecordAt, HeadedFrom]

private theorem headed_cons {line : Text} {ls : List Text} {i : Nat} {place : Text} :
    Headed (line :: ls) (i + 1) place ↔ HeadedFrom (headerPlace? line) ls i place := by
  have hline : kindAt (line :: ls) 0 = some (.header place) ↔ headerPlace? line = some place := by
    simp only [kindAt, headerPlace?, List.getElem?_cons_zero, Option.map_some]
    cases LineKind.classify line <;> simp
  constructor
  · rintro ⟨j, hj, hk, hg⟩
    cases j with
    | zero => exact Or.inl ⟨hline.1 hk, by simpa using hg⟩
    | succ j => exact Or.inr ⟨j, by omega, by simpa [kindAt] using hk, by simpa using hg⟩
  · rintro (⟨hp, hg⟩ | ⟨j, hj, hk, hg⟩)
    · exact ⟨0, by omega, hline.2 hp, by simpa using hg⟩
    · exact ⟨j + 1, by omega, by simpa [kindAt] using hk, by simpa using hg⟩

private theorem headedFrom_cons {above : Option Text} {line : Text} {ls : List Text} {i : Nat}
    {place : Text} :
    HeadedFrom above (line :: ls) (i + 1) place ↔
      (above = some place ∧ Grouped (line :: ls.take i)) ∨
        HeadedFrom (headerPlace? line) ls i place := by
  rw [HeadedFrom, headed_cons, List.take_succ_cons]

private theorem numberedAt_cons {line : Text} {ls : List Text} {i : Nat} {place : Text}
    {r : ErrorRecord} : NumberedAt (line :: ls) (i + 1) place r ↔ NumberedAt ls i place r := by
  simp only [NumberedAt, kindAt, List.getElem?_cons_succ, List.drop_succ_cons]

private theorem numberedAt_append {pre ls : List Text} {i : Nat} {place : Text} {r : ErrorRecord} :
    NumberedAt (pre ++ ls) (pre.length + i) place r ↔ NumberedAt ls i place r := by
  simp only [NumberedAt, kindAt, Nat.add_assoc, List.drop_length_add_append,
    List.getElem?_append_right (Nat.le_add_right _ _), Nat.add_sub_cancel_left]

private theorem numberedAt_zero {line : Text} {ls : List Text} {place : Text} {r : ErrorRecord} :
    NumberedAt (line :: ls) 0 place r ↔ ∃ digits, LineKind.classify line = .lineNumber digits ∧
      ls.takeWhile isMessage ≠ [] ∧
        r = ⟨Throwpoint.bracketed place digits, ls.takeWhile isMessage⟩ := by
  have hl (k : LineKind) : kindAt (line :: ls) 0 = some k ↔ LineKind.classify line = k := by
    simp [kindAt]
  have hm : kindAt (line :: ls) 1 = some .errorCode ↔ ls.takeWhile isMessage ≠ [] := by
    cases ls with
    | nil => simp [kindAt]
    | cons first ls => by_cases h : isMessage first = true <;> simp_all [kindAt, isMessage_iff]
  simp only [NumberedAt, hl, hm, Nat.zero_add, List.drop_succ_cons, List.drop_zero]

private theorem headedFrom_zero {above : Option Text} {ls : List Text} {place : Text} :
    HeadedFrom above ls 0 place ↔ above = some place := by
  simp [HeadedFrom, Headed, Grouped.nil]

private theorem takeWhile_take {ls : List Text} (h : ls.takeWhile isMessage = []) (i : Nat) :
    (ls.take i).takeWhile isMessage = [] := by
  cases ls with
  | nil => simp
  | cons line ls => cases i <;> simp_all

/-- A line number without any message below it leads nowhere. -/
private theorem recordFrom_skip {above : Option Text} {line : Text} {ls : List Text}
    (h : ∀ digits place, LineKind.classify line = .lineNumber digits → above = some place →
      ls.takeWhile isMessage = []) :
    (∀ r, ¬ RecordFrom above (line :: ls) 0 r) ∧
      (fun i => RecordFrom above (line :: ls) (i + 1)) = RecordFrom (headerPlace? line) ls := by
  constructor
  · rintro r ⟨place, ha, hn⟩
    obtain ⟨digits, hl, hne, -⟩ := numberedAt_zero.1 hn
    exact hne (h digits place hl (headedFrom_zero.1 ha))
  · funext i r
    refine propext (exists_congr fun place => ?_)
    rw [numberedAt_cons, headedFrom_cons, or_iff_right]
    rintro ⟨ha, hg⟩
    obtain ⟨⟨digits, hl⟩, hne, -⟩ := grouped_cons_iff.1 hg
    exact hne (takeWhile_take (h digits place hl ha) i)

section Group
variable {line digits place : Text} {messages rest : List Text}
  (hl : LineKind.classify line = .lineNumber digits) (hne : messages ≠ [])
  (hm : ∀ m ∈ messages, isMessage m = true) (hr : rest.takeWhile isMessage = [])
include hm

private theorem headed_messages {i : Nat} :
    Headed (messages ++ rest) (messages.length + i) place ↔ Headed rest i place := by
  induction messages with
  | nil => simp
  | cons m messages ih =>
    have hp : headerPlace? m = none := by
      simp [headerPlace?, isMessage_iff.1 (hm m List.mem_cons_self)]
    rw [List.cons_append, List.length_cons, Nat.add_right_comm, headed_cons, hp, HeadedFrom,
      ih fun m' hm' => hm m' (List.mem_cons_of_mem m hm')]
    simp

include hl hne hr

private theorem grouped_group {i : Nat} :
    Grouped (line :: (messages ++ rest.take i)) ↔ Grouped (rest.take i) := by
  have ht := takeWhile_take hr i
  rw [grouped_cons_iff, List.takeWhile_append_of_pos hm, List.dropWhile_append_of_pos hm, ht,
    dropWhile_isMessage_of_takeWhile ht, List.append_nil]
  exact ⟨fun h => h.2.2, fun h => ⟨⟨digits, hl⟩, hne, h⟩⟩

/-- The header stays open below a group. -/
private theorem recordFrom_below :
    (fun i => RecordFrom (some place) (line :: (messages ++ rest)) (messages.length + i + 1)) =
      RecordFrom (some place) rest := by
  have hp : headerPlace? line = none := by simp [headerPlace?, hl]
  funext i r
  refine propext (exists_congr fun p => ?_)
  rw [numberedAt_cons, numberedAt_append, headedFrom_cons, List.take_length_add_append,
    grouped_group hl hne hm hr, hp, HeadedFrom, headed_messages hm, HeadedFrom]
  simp

private theorem recordFrom_group (r : ErrorRecord) :
    RecordFrom (some place) (line :: (messages ++ rest)) 0 r ↔
      r = ⟨Throwpoint.bracketed place digits, messages⟩ := by
  have hw : (messages ++ rest).takeWhile isMessage = messages := by
    rw [List.takeWhile_append_of_pos hm, hr, List.append_nil]
  simp [RecordFrom, headedFrom_zero, numberedAt_zero, hl, hw, hne]

end Group

private theorem not_recordFrom_message {above : Option Text} {line : Text}
    {messages rest : List Text} (hm : ∀ m ∈ messages, isMessage m = true) {i : Nat}
    (hi : i < messages.length) (r : ErrorRecord) :
    ¬ RecordFrom above (line :: (messages ++ rest)) (i + 1) r := by
  rintro ⟨place, -, digits, hk, -⟩
  rw [kindAt, List.getElem?_cons_succ, List.getElem?_append_left hi, List.getElem?_eq_getElem hi,
    Option.map_some, isMessage_iff.1 (hm _ (List.getElem_mem hi))] at hk
  cases hk

/-- Reading the lines in order finds the records that the lines hold. -/
theorem listing_blocks (above : Option Text) (ls : List Text) :
    Listing (RecordFrom above ls) (blocks above ls) := by
  fun_induction blocks above ls with
  | case1 =>
    apply Listing.nil
    rintro i r ⟨_, _, _, hk, -⟩
    simp [kindAt] at hk
  | case2 line ls digits place hl hw ih =>
    obtain ⟨h0, hs⟩ := @recordFrom_skip (some place) line ls fun _ _ _ _ => hw
    have hp : headerPlace? line = none := by simp [headerPlace?, hl]
    rw [hp] at hs
    exact .skip h0 (hs ▸ ih)
  | case3 line ls digits place hl hw ih =>
    have hm (m : Text) (h : m ∈ ls.takeWhile isMessage) : isMessage m = true :=
      List.mem_takeWhile_imp h
    have hr : (ls.dropWhile isMessage).takeWhile isMessage = [] :=
      List.takeWhile_eq_nil_iff.2 (List.dropWhile_get_zero_not isMessage ls)
    rw [show RecordFrom (some place) (line :: ls) = RecordFrom (some place)
      (line :: (ls.takeWhile isMessage ++ ls.dropWhile isMessage)) by
        rw [List.takeWhile_append_dropWhile]]
    apply Listing.cons (recordFrom_group hl hw hm hr)
    apply Listing.shift (ls.takeWhile isMessage).length
    · exact fun i r hi => not_recordFrom_message hm hi r
    · rw [recordFrom_below hl hw hm hr]
      exact ih
  | case4 above line ls hno ih =>
    obtain ⟨h0, hs⟩ := @recordFrom_skip above line ls fun digits place hl ha =>
      absurd ha (hno digits place hl)
    exact .skip h0 (hs ▸ ih)

end ScriptTrace.History
