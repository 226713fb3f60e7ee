import ScriptTrace.Proofs.Json.Members
import ScriptTrace.Trace.Wire

/-! What is written of stacktraces and error records is read back.
A frame is written without the members that say nothing, and its reader starts from a frame of
which nothing is known. -/
namespace ScriptTrace
open Json

section Optional
variable {skip : Prop} [Decidable skip] {key k : Text} {value v : Json}

private theorem mem_optional :
    (k, v) ∈ (if skip then [] else [(key, value)]) ↔ ¬ skip ∧ k = key ∧ v = value := by
  split <;> simp [*]

private theorem keys_optional :
    ((if skip then [] else [(key, value)]).map Prod.fst).Sublist [key] := by
  split <;> simp

variable {σ : Type} {members : List (Member σ)} {m : Member σ} {draft read : σ}

/-- A member may be left out if setting it changes nothing. -/
theorem setMembers_optional (hm : members.find? (·.key = key) = some m)
    (hset : m.set value draft = .ok read) (hskip : skip → read = draft) :
    Shape.setMembers members (if skip then [] else [(key, value)]) draft = .ok read := by
  split
  · next hs =>
    rw [hskip hs]
    rfl
  · exact Shape.setMembers_cons_ok hm hset rfl

end Optional

namespace Frame
variable {f : Frame}

/-- What the wire form of a frame tells: the members that are neither empty nor zero. -/
inductive Tells (f : Frame) : Text → Json → Prop where
  | funcname (h : f.funcname ≠ []) : Tells f "funcname".toList (.string f.funcname)
  | flnum (h : f.flnum ≠ 0) : Tells f "flnum".toList (.whole f.flnum)
  | line (h : f.line ≠ []) : Tells f "line".toList (.string f.line)
  | filename (h : f.filename ≠ []) : Tells f "filename".toList (.string f.filename)
  | lnum (h : f.lnum ≠ 0) : Tells f "lnum".toList (.whole f.lnum)
  | text (h : f.text ≠ []) : Tells f "text".toList (.string f.text)

/-- The members of a frame are the ones that tell something of it. -/
theorem mem_members_iff {key : Text} {value : Json} :
    (key, value) ∈ f.members ↔ f.Tells key value := by
  simp only [members, textMember, wordMember, List.mem_append, mem_optional]
  constructor
  · rintro (((((h | h) | h) | h) | h) | h)
    all_goals obtain ⟨h, rfl, rfl⟩ := h
    · exact .funcname h
    · exact .flnum h
    · exact .line h
    · exact .filename h
    · exact .lnum h
    · exact .text h
  · intro h
    cases h <;> simp [*]

theorem nodup_keys (f : Frame) : (f.members.map Prod.fst).Nodup := by
  have hs : (f.members.map Prod.fst).Sublist (shape.members.map Member.key) := by
    simp only [members, textMember, wordMember, List.map_append]
    exact ((((keys_optional.append keys_optional).append keys_optional).append
      keys_optional).append keys_optional).append keys_optional
  exact hs.nodup (by decide)

/-- Read in the order of declaration, each member gives the draft one more field of the frame. -/
theorem setMembers_members (f : Frame) :
    Shape.setMembers shape.members f.members empty = .ok f := by
  obtain ⟨funcname, flnum, line, filename, lnum, text⟩ := f
  simp only [members, textMember, wordMember]
  -- whether one member is left out does not depend on the others
  refine Shape.setMembers_append_ok (Shape.setMembers_append_ok (Shape.setMembers_append_ok
    (Shape.setMembers_append_ok (Shape.setMembers_append_ok
      (setMembers_optional rfl rfl ?funcname) (setMembers_optional rfl rfl ?flnum))
      (setMembers_optional rfl rfl ?line)) (setMembers_optional rfl rfl ?filename))
      (setMembers_optional rfl rfl ?lnum)) (setMembers_optional rfl rfl ?text)
  all_goals
    rintro rfl
    rfl

/-- Two members of one frame may be read in either order. -/
theorem setMembers_comm {x y : Text × Json} (hx : x ∈ f.members) (hy : y ∈ f.members)
    (draft : Frame) : Shape.setMembers shape.members [x, y] draft =
      Shape.setMembers shape.members [y, x] draft := by
  obtain ⟨k, v⟩ := x
  obtain ⟨l, w⟩ := y
  -- both orders come to one draft, which has the two fields of the frame
  cases mem_members_iff.1 hx <;> cases mem_members_iff.1 hy <;>
    exact Eq.trans (b := .ok _) rfl rfl

/-- A frame is read from its members in any order. -/
theorem ofJson_of_perm {given : List (Text × Json)} (h : given.Perm f.members) :
    ofJson (.object given) = .ok f := by
  have hread : Shape.setMembers shape.members given empty = .ok f := by
    rw [Shape.setMembers_perm h fun x hx y hy =>
      setMembers_comm (h.mem_iff.1 hx) (h.mem_iff.1 hy), setMembers_members]
  have hs : shape.draft = empty := rfl
  rw [ofJson, Shape.decode, hs, hread]
  rfl

theorem ofJson_toJson (f : Frame) : ofJson f.toJson = .ok f :=
  ofJson_of_perm (sortMembers_perm f.nodup_keys)

end Frame

namespace Stacktrace

private theorem ofJson_of_frames {write : Frame → Json} (h : ∀ f, Frame.ofJson (write f) = .ok f)
    (trace : Stacktrace) :
    ofJson (.object [("stacks".toList, .array (trace.frames.map write))]) = .ok trace := by
  have hset : Shape.setMembers shape.members
      [("stacks".toList, .array (trace.frames.map write))] shape.draft = .ok trace :=
    Shape.setMembers_cons_ok rfl
      (congrArg (fun frames => do return Stacktrace.mk (← frames)) (toList_map h trace.frames)) rfl
  rw [ofJson, Shape.decode, hset]
  rfl

end Stacktrace

namespace History.ErrorRecord

theorem toJson_eq (r : ErrorRecord) :
    r.toJson = .object [("messages".toList, strings r.messages),
      ("throwpoint".toList, .string r.throwpoint)] := rfl

private theorem toList_strings (texts : List Text) :
    (strings texts).toList Json.toText = .ok texts := by
  have h (s : Text) : Json.toText (.string s) = .ok s := rfl
  exact toList_map h texts

private theorem set_messages (r : ErrorRecord) (texts : List Text) :
    (do return { r with messages := ← (strings texts).toList Json.toText } :
      Except DecodeError ErrorRecord) = .ok { r with messages := texts } := by
  rw [toList_strings]
  rfl

/-- A record is read back as it was written. -/
theorem ofJson_toJson (r : ErrorRecord) : ofJson r.toJson = .ok r := by
  have hset : Shape.setMembers shape.members [("messages".toList, strings r.messages),
      ("throwpoint".toList, .string r.throwpoint)] shape.draft = .ok r :=
    Shape.setMembers_cons_ok rfl (set_messages _ r.messages) rfl
  rw [toJson_eq, ofJson, Shape.decode, hset]
  rfl

theorem ofJson_toDeclared (r : ErrorRecord) : ofJson r.toDeclared = .ok r := by
  have hset : Shape.setMembers shape.members r.members shape.draft = .ok r :=
    Shape.setMembers_cons_ok rfl rfl
      (Shape.setMembers_cons_ok rfl (set_messages _ r.messages) rfl)
  rw [toDeclared, ofJson, Shape.decode, hset]
  rfl

end History.ErrorRecord

/-- Stacktraces and lists of error records are read back from what is written of them, with the
members in either order. What is written of a frame has a member for each field that is neither
empty nor zero, and no other. -/
theorem wire_lossless (trace : Stacktrace) (records : List History.ErrorRecord) :
    Stacktrace.ofJson trace.toJson = .ok trace ∧
    Stacktrace.ofJson trace.toDeclared = .ok trace ∧
    (Json.array (records.map History.ErrorRecord.toJson)).toList History.ErrorRecord.ofJson =
      .ok records ∧
    (Json.array (records.map History.ErrorRecord.toDeclared)).toList History.ErrorRecord.ofJson =
      .ok records ∧
    ∀ frame : Frame, ∃ given, frame.toJson = .object given ∧ (given.map Prod.fst).Nodup ∧
      ∀ key value, (key, value) ∈ given ↔ frame.Tells key value := by
  refine ⟨Stacktrace.ofJson_of_frames Frame.ofJson_toJson trace,
    Stacktrace.ofJson_of_frames (fun _ => Frame.ofJson_of_perm (.refl _)) trace,
    toList_map History.ErrorRecord.ofJson_toJson records,
    toList_map History.ErrorRecord.ofJson_toDeclared records, fun frame => ?_⟩
  have hperm := sortMembers_perm frame.nodup_keys
  refine ⟨sortMembers frame.members, rfl, (hperm.map Prod.fst).nodup_iff.2 frame.nodup_keys,
    fun key value => ?_⟩
  rw [hperm.mem_iff, Frame.mem_members_iff]

end ScriptTrace
