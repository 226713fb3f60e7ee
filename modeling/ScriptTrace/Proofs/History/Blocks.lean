import Mathlib.Data.List.TakeWhile
import ScriptTrace.History.Extractor
import ScriptTrace.Proofs.Listing

/-! The records of a message history, told from its lines alone.
A record belongs to a line number to which a header and complete groups of errors lead. -/
namespace ScriptTrace.History
open Text

def historyLines (history : Text) : List Text :=
  (history.splitOn '\n').map dropReturn

def isMessage (line : Text) : Bool :=
  LineKind.classify line = .errorCode

def kindAt (ls : List Text) (i : Nat) : Option LineKind :=
  ls[i]?.map LineKind.classify

/-- Any number of complete groups. A group is a line number and the messages below it, of which
there has to be one. -/
inductive Grouped : List Text → Prop where
  | nil : Grouped []
  | group {line digits : Text} {messages rest : List Text}
      (hl : LineKind.classify line = .lineNumber digits) (hne : messages ≠ [])
      (hm : ∀ m ∈ messages, isMessage m = true) (hr : Grouped rest) :
      Grouped (line :: (messages ++ rest))

/-- A header above line `i` has this place, with only complete groups between the two. -/
def Headed (ls : List Text) (i : Nat) (place : Text) : Prop :=
  ∃ j < i, kindAt ls j = some (.header place) ∧ Grouped ((ls.take i).drop (j + 1))

/-- Line `i` is a line number right above a message. The record has its number behind the place,
and all the messages down to the first line that is none. -/
def NumberedAt (ls : List Text) (i : Nat) (place : Text) (r : ErrorRecord) : Prop :=
  ∃ digits, kindAt ls i = some (.lineNumber digits) ∧ kindAt ls (i + 1) = some .errorCode ∧
    r = ⟨Throwpoint.bracketed place digits, (ls.drop (i + 1)).takeWhile isMessage⟩

def RecordAt (ls : List Text) (i : Nat) (r : ErrorRecord) : Prop :=
  ∃ place, Headed ls i place ∧ NumberedAt ls i place r

theorem isMessage_iff {line : Text} :
    isMessage line = true ↔ LineKind.classify line = .errorCode :=
  decide_eq_true_iff

private theorem Grouped.takeWhile_eq_nil {ls : List Text} (h : Grouped ls) :
    ls.takeWhile isMessage = [] := by
  cases h with
  | nil => rfl
  | group hl => simp [isMessage, hl]

theorem dropWhile_isMessage_of_takeWhile {ls : List Text} (h : ls.takeWhile isMessage = []) :
    ls.dropWhile isMessage = ls := by
  have hs := List.takeWhile_append_dropWhile (p := isMessage) (l := ls)
  rwa [h, List.nil_append] at hs

/-- A first group is a line number with all the messages below it. -/
theorem grouped_cons_iff {line : Text} {ls : List Text} :
    Grouped (line :: ls) ↔ (∃ digits, LineKind.classify line = .lineNumber digits) ∧
      ls.takeWhile isMessage ≠ [] ∧ Grouped (ls.dropWhile isMessage) := by
  constructor
  · intro h
    cases h with
    | @group _ digits messages rest hl hne hm hr =>
      rw [List.takeWhile_append_of_pos hm, List.dropWhile_append_of_pos hm, hr.takeWhile_eq_nil,
        dropWhile_isMessage_of_takeWhile hr.takeWhile_eq_nil, List.append_nil]
      exact ⟨⟨digits, hl⟩, hne, hr⟩
  · rintro ⟨⟨digits, hl⟩, hne, hr⟩
    have hg := Grouped.group hl hne (fun m hm => List.mem_takeWhile_imp hm) hr
    rwa [List.takeWhile_append_dropWhile] at hg

end ScriptTrace.History
