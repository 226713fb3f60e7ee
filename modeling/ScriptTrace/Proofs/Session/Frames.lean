import ScriptTrace.Proofs.Session.Ensures
import ScriptTrace.Proofs.Session.Oblivious
import ScriptTrace.Proofs.Throwpoint.Links
import ScriptTrace.Session.Builder

/-! What a stacktrace tells of the throwpoint that it was built from.
Frames of functions begin their text with a label, and the frame of a position never does. -/
namespace ScriptTrace
open Text

def Frame.OfFunction (link : Link) (frame : Frame) : Prop :=
  frame.funcname = Name.display link.body ∧ frame.text ≠ frame.line

def Frame.OfFile (link : Link) (frame : Frame) : Prop :=
  frame.filename = link.body ∧ frame.text = frame.line

def Throwpoint.Shows (trace : Stacktrace) : Throwpoint → Prop
  | .function links => List.Forall₂ Frame.OfFunction links trace.frames
  | .file link => List.Forall₂ Frame.OfFile [link] trace.frames

private theorem map_frames {R : Link → Frame → Prop} {f : Frame → Text} {g : Link → Text}
    (hR : ∀ link frame, R link frame → f frame = g link) {links : List Link} {frames : List Frame}
    (h : List.Forall₂ R links frames) : frames.map f = links.map g := by
  induction h with
  | nil => rfl
  | cons hf _ ih => rw [List.map_cons, List.map_cons, hR _ _ hf, ih]

private theorem not_function_and_file {links : List Link} {link : Link} {frames : List Frame}
    (h : List.Forall₂ Frame.OfFunction links frames) (h' : List.Forall₂ Frame.OfFile [link] frames) :
    False := by
  cases h' with
  | cons hf _ =>
    cases h with
    | cons hg _ => exact hg.2 hf.2

private theorem Frame.label_append_ne (funcname : Text) (flnum : Nat) (line : Text) :
    Frame.label funcname flnum ++ line ≠ line := by
  intro h
  have hl := congrArg List.length h
  simp only [label, List.length_append, List.length_singleton] at hl
  omega

/-- A stacktrace has the names of its throwpoint. -/
theorem Throwpoint.Shows.names_eq {trace : Stacktrace} {t t' : Throwpoint} (h : t.Shows trace)
    (h' : t'.Shows trace) : t.names = t'.names := by
  cases t with
  | function links =>
    cases t' with
    | function links' =>
      have hn (link : Link) (frame : Frame) (hf : frame.OfFunction link) :
          frame.funcname = Name.display link.body := hf.1
      exact congrArg Sum.inl ((map_frames hn h).symm.trans (map_frames hn h'))
    | file link' => exact (not_function_and_file h h').elim
  | file link =>
    cases t' with
    | function links' => exact (not_function_and_file h' h).elim
    | file link' =>
      have hn (link : Link) (frame : Frame) (hf : frame.OfFile link) :
          frame.filename = link.body := hf.1
      have hb := (map_frames hn h).symm.trans (map_frames hn h')
      exact congrArg Sum.inr (List.singleton_inj.1 hb)

namespace Session
open ScriptTrace.Action
variable (s : Session)

private theorem ensures_functionFrame_names (link : Link) :
    Ensures (fun _ => True) (s.functionFrame link) (Frame.OfFunction link) := by
  refine (ensures_ask _ _).bind ?_
  rintro _ rfl
  cases s.host.describe (Name.display link.body) with
  | error e =>
    refine (ensures_note _ _ _).bind fun _ _ => ensures_pure ⟨rfl, ?_⟩
    simpa [Frame.ofFunction, Frame.empty] using Frame.label_append_ne (Name.display link.body) link.line []
  | ok listing =>
    have hl (line : Text) := Frame.label_append_ne (Name.display link.body) link.line line
    dsimp only
    cases (Dump.parse s.home listing).sourceFile with
    | none => exact ensures_pure ⟨rfl, hl _⟩
    | some file => exact fun _ _ => ⟨⟨rfl, hl _⟩, trivial⟩

private theorem ensures_fileFrame (link : Link) :
    Ensures (fun _ => True) (s.fileFrame link) (Frame.OfFile link) := by
  refine (ensures_read _ _).bind ?_
  rintro _ rfl
  cases s.host.read link.body with
  | error e => exact (ensures_note _ _ _).bind fun _ _ => ensures_pure ⟨rfl, rfl⟩
  | ok bytes => exact ensures_pure ⟨rfl, rfl⟩

/-- What can be parsed can be built, with one frame for each link. -/
theorem buildCanonical_shows {chain : Text} {t : Throwpoint} (h : Throwpoint.parse? chain = some t)
    (cache : Cache) :
    ∃ trace, ((s.buildCanonical chain).run cache).value = .ok trace ∧ t.Shows trace := by
  simp only [buildCanonical, h]
  cases t with
  | function links =>
    have hf : Ensures (fun _ => True) (forEach s.functionFrame links)
        (List.Forall₂ Frame.OfFunction links) :=
      Ensures.forEach fun link _ => s.ensures_functionFrame_names link
    exact ⟨_, rfl, (hf .empty trivial).1⟩
  | file link => exact ⟨_, rfl, .cons (s.ensures_fileFrame link cache trivial).1 .nil⟩

/-- What is no throwpoint is refused before anything else is done. -/
theorem buildCanonical_refuses {chain : Text} (h : Throwpoint.parse? chain = none) (cache : Cache) :
    (s.buildCanonical chain).run cache = ⟨.error (.invalidThrowpoint chain), cache, []⟩ := by
  simp only [buildCanonical, h]
  rfl

/-- What cannot be parsed is refused with the text itself. -/
theorem buildCanonical_none {chain : Text} (h : Throwpoint.parse? chain = none) (cache : Cache) :
    ((s.buildCanonical chain).run cache).value = .error (.invalidThrowpoint chain) :=
  congrArg Outcome.value (s.buildCanonical_refuses h cache)

/-- A stacktrace is always one of a throwpoint. -/
theorem exists_shows_of_buildCanonical {chain : Text} {trace : Stacktrace} {cache : Cache}
    (hv : ((s.buildCanonical chain).run cache).value = .ok trace) :
    ∃ t, Throwpoint.parse? chain = some t ∧ t.Shows trace := by
  cases ht : Throwpoint.parse? chain with
  | none =>
    rw [s.buildCanonical_none ht cache] at hv
    cases hv
  | some t =>
    obtain ⟨trace', hv', hs⟩ := s.buildCanonical_shows ht cache
    obtain rfl : trace' = trace := Except.ok.inj (hv'.symm.trans hv)
    exact ⟨t, rfl, hs⟩

/-- The cache before a stacktrace is built does not matter to it. -/
theorem buildCanonical_value_eq (chain : Text) (cache cache' : Cache) :
    ((s.buildCanonical chain).run cache).value = ((s.buildCanonical chain).run cache').value :=
  (s.oblivious_buildCanonical chain cache cache').1

end Session
end ScriptTrace
