import Mathlib.Tactic.Choose
import ScriptTrace.Proofs.History.Throwpoints
import ScriptTrace.Proofs.Throwpoint.Segments

/-! The sites that the blocks of a message history name, and the throwpoints of its records.
Each record points to the line of its own block, whatever the place of the header looks like. -/
namespace ScriptTrace.History
open Text Throwpoint

/-- Where a block says that an error was thrown: the place of its header and the digits of a line
number below it. -/
structure Site where
  place : Text
  digits : Text
  deriving Inhabited

/-- Line `i` is a line number right above a message, and a header to which only complete groups lead
up has the place. -/
def SiteAt (ls : List Text) (i : Nat) (s : Site) : Prop :=
  Headed ls i s.place ∧ kindAt ls i = some (.lineNumber s.digits) ∧
    kindAt ls (i + 1) = some .errorCode

namespace Site

def line (s : Site) : Nat :=
  if digitsValue s.digits < wordLimit then digitsValue s.digits else 0

/-- A throwpoint has the line of the site, and the links or the file of its place. In a chain the line
goes to the innermost segment, whole as it stands in the place. -/
inductive Names (s : Site) : Throwpoint → Prop
  | file (h : ¬ functionMark <+: s.place) : s.Names (.file ⟨s.place, s.line⟩)
  | function {chain last : Text} {front : List Text} (h : s.place = functionMark ++ chain)
      (hs : segments chain = front ++ [last]) :
      s.Names (.function (front.map Link.parse ++ [⟨last, s.line⟩]))

section Reading
variable {s : Site} (hd : isDigits s.digits = true)
include hd

private theorem parse_bracketed (place : Text) :
    Link.parse (bracketed place s.digits) = ⟨place, s.line⟩ := by
  have hn : (bareNumber? wordLimit s.digits).getD 0 = s.line := by
    rw [bareNumber?, hd, Bool.true_and, line]
    simp only [decide_eq_true_eq]
    split <;> rfl
  rw [Throwpoint.parse_bracketed place hd, unsigned?_of_isDigits hd, hn]

private theorem splitLinks_bracketed {chain last : Text} {front : List Text}
    (hs : segments chain = front ++ [last]) :
    splitLinks (bracketed chain s.digits) = front.map Link.parse ++ [⟨last, s.line⟩] := by
  have hdot : '.' ∉ '[' :: (s.digits ++ [']']) := by
    simp [notMem_of_isDigits hd (c := '.') (by decide)]
  have hb : segments (bracketed chain s.digits) = front ++ [bracketed last s.digits] := by
    rw [bracketed_eq, bracketed_eq]
    exact ((segments_eq_iff.1 hs).append_of_notMem hdot).segments_eq
  rw [splitLinks, hb, List.map_append, List.map_singleton, parse_bracketed hd]

private theorem exists_names : ∃ t, parse? (bracketed s.place s.digits) = some t ∧ s.Names t := by
  by_cases hf : functionMark <+: s.place
  · obtain ⟨chain, hc⟩ := hf
    obtain ⟨front, last, hs⟩ :=
      (List.eq_nil_or_concat (segments chain)).resolve_left (segments_ne_nil chain)
    rw [List.concat_eq_append] at hs
    have hb : bracketed s.place s.digits = functionMark ++ bracketed chain s.digits := by
      simp [← hc, bracketed]
    refine ⟨_, ?_, .function hc.symm hs⟩
    rw [hb, parse?_function, splitLinks_bracketed hd hs]
  · have hn : functionMark.isPrefixOf? (bracketed s.place s.digits) = none :=
      isPrefixOf?_eq_none_iff.2 fun h => hf ((prefix_bracketed_iff (by decide)).1 h)
    have hp : isFilePosition (bracketed s.place s.digits) = true :=
      isFilePosition_iff.2 ⟨s.place, s.digits, hd, rfl⟩
    refine ⟨_, ?_, .file hf⟩
    simp only [parse?, hn, hp, if_true, parse_bracketed hd]

end Reading
end Site

/-- The sites of a message history are those in the throwpoints of its records. -/
theorem listing_siteAt {history : Text} {f : ErrorRecord → Site}
    (hf : ∀ r ∈ extract history,
      r.throwpoint = bracketed (f r).place (f r).digits ∧ isDigits (f r).digits = true) :
    Listing (SiteAt (historyLines history)) ((extract history).map f) := by
  have hl := listing_extract history
  have site {i : Nat} {r : ErrorRecord} {place digits : Text} (hr : r ∈ extract history)
      (hi : kindAt (historyLines history) i = some (.lineNumber digits))
      (ht : r.throwpoint = bracketed place digits) : f r = ⟨place, digits⟩ := by
    obtain ⟨line, -, hc⟩ := Option.map_eq_some_iff.1 hi
    obtain ⟨he, hd⟩ := hf r hr
    obtain ⟨hp, hg⟩ := bracketed_inj hd (isDigits_of_classify_lineNumber hc) (he.symm.trans ht)
    rw [← hp, ← hg]
  apply hl.map
  intro i s
  constructor
  · rintro ⟨hh, hn, hm⟩
    have hr : RecordAt (historyLines history) i _ := ⟨s.place, hh, s.digits, hn, hm, rfl⟩
    exact ⟨_, hr, site (hl.mem_iff.2 ⟨i, hr⟩) hn rfl⟩
  · rintro ⟨r, hr, rfl⟩
    have hx := hl.mem_iff.2 ⟨i, hr⟩
    obtain ⟨place, hh, digits, hn, hm, he⟩ := hr
    rw [site hx hn (congrArg ErrorRecord.throwpoint he)]
    exact ⟨hh, hn, hm⟩

/-- The records of a message history belong to the sites that its blocks name, one to one and in
order, and the throwpoint of each is read as its site without being normalized. -/
theorem exists_listing_siteAt (history : Text) :
    ∃ sites, Listing (SiteAt (historyLines history)) sites ∧
      List.Forall₂ (fun s r => ∃ t, parse? r.throwpoint = some t ∧ s.Names t) sites
        (extract history) := by
  have hex : ∀ r ∈ extract history, ∃ s : Site,
      r.throwpoint = bracketed s.place s.digits ∧ isDigits s.digits = true := by
    intro r hr
    obtain ⟨place, digits, ht, hd, -⟩ := throwpoint_of_mem_extract hr
    exact ⟨⟨place, digits⟩, ht, hd⟩
  choose! f hf using hex
  refine ⟨_, listing_siteAt hf, ?_⟩
  rw [List.forall₂_map_left_iff, List.forall₂_same]
  intro r hr
  obtain ⟨ht, hd⟩ := hf r hr
  rw [ht]
  exact Site.exists_names hd

example :
    (extract ("Error detected while processing function F[1]..:\nline 7:\nE1: x\n" ++
        "line 18446744073709551616:\nE2: y").toList).map (fun r => parse? r.throwpoint) =
      [some (.function [⟨"F".toList, 1⟩, ⟨[], 7⟩]), some (.function [⟨"F".toList, 1⟩, ⟨[], 0⟩])] := by
  decide +kernel

end ScriptTrace.History
