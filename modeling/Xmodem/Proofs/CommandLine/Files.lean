import Mathlib.Data.List.Infix
import Xmodem.CommandLine.Files

/-!
# Written files

A file that was written is at the place that its name had before.  It can be read under the same
name, and at all other places nothing changed.
-/

namespace Xmodem.CommandLine

section Results

variable {ε ε' α β : Type} {value : α}

theorem bind_eq_ok {first : Except ε α} {second : α → Except ε β} {result : β} :
    first >>= second = .ok result ↔ ∃ value, first = .ok value ∧ second value = .ok result := by
  cases first with
  | error error =>
      constructor
      · intro done
        cases done
      · rintro ⟨_, ⟨⟩, -⟩
  | ok value =>
      constructor
      · exact fun done => ⟨value, rfl, done⟩
      · rintro ⟨_, ⟨⟩, done⟩
        exact done

theorem mapError_eq_ok {result : Except ε α} {rename : ε → ε'} :
    result.mapError rename = .ok value ↔ result = .ok value := by
  cases result <;> simp [Except.mapError]

theorem toOption_eq_some_iff {result : Except ε α} :
    result.toOption = some value ↔ result = .ok value := by
  cases result <;> simp [Except.toOption]

end Results

namespace Files

variable {files later : Files} {name part last : String} {place other directory : Place}
  {content : List UInt8} {writing : Bool}

/-- Whether a content got to a place, and nowhere else did anything change.  The device that is
empty swallows what is written. -/
structure Changes (files : Files) (place : Place) (content : List UInt8) (later : Files) :
    Prop where
  held : place ≠ nullDevice → later.content? place = some content
  kept : ∀ other, other ≠ place → later.content? other = files.content? other

/-- Whether a directory and all directories above it exist. -/
def Reaches (files : Files) (directory : Place) : Prop :=
  ∀ above, above <+: directory → files.isDirectory above = true

section Placing

theorem lookup_replace (entries : List (Place × List UInt8)) (place other : Place)
    (content : List UInt8) :
    (entries.map fun (name, old) => (name, if name = place then content else old)).lookup other =
      (entries.lookup other).map fun old => if other = place then content else old := by
  induction entries with
  | nil => rfl
  | cons entry entries induction =>
      obtain ⟨name, old⟩ := entry
      rw [List.map_cons, List.lookup_cons, List.lookup_cons, induction]
      by_cases same : other = name
      · subst same
        simp
      · have apart : (other == name) = false := beq_false_of_ne same
        simp only [apart]

theorem lookup_put_self (files : Files) (place : Place) (content : List UInt8) :
    (files.put place content).entries.lookup place = some content := by
  unfold put
  split
  · rename_i present
    obtain ⟨old, found⟩ := Option.isSome_iff_exists.mp present
    simp [lookup_replace, found]
  · rename_i absent
    rw [List.lookup_append, Option.not_isSome_iff_eq_none.mp absent]
    simp

theorem lookup_put_of_ne (files : Files) (content : List UInt8) (apart : other ≠ place) :
    (files.put place content).entries.lookup other = files.entries.lookup other := by
  unfold put
  split
  · simp [lookup_replace, apart]
  · have nothing : [(place, content)].lookup other = none := by
      rw [List.lookup_cons, beq_false_of_ne apart, List.lookup_nil]
    rw [List.lookup_append, nothing, Option.or_none]

theorem changes_put (files : Files) (place : Place) (content : List UInt8) :
    files.Changes place content (files.put place content) where
  held regular := by rw [content?, if_neg regular, lookup_put_self]
  kept other apart := by rw [content?, content?, lookup_put_of_ne files content apart]

end Placing

section Locating

theorem reaches_home : files.Reaches home := by
  intro above inside
  simp [isDirectory, List.isPrefixOf_iff_prefix, inside]

theorem reaches_root : files.Reaches [] := by
  intro above inside
  simp [isDirectory, List.prefix_nil.mp inside]

theorem child_eq_ok (found : child name directory part = .ok place) :
    place = directory ++ [part] := by
  unfold child at found
  split at found
  · cases found
  · exact (Except.ok.inj found).symm

theorem Reaches.enter (reaches : files.Reaches directory)
    (enters : files.enter name directory part = .ok place) : files.Reaches place := by
  unfold Files.enter at enters
  split at enters
  · exact Except.ok.inj enters ▸ reaches
  split at enters
  · obtain rfl := Except.ok.inj enters
    exact fun above inside => reaches above (inside.trans (List.dropLast_prefix directory))
  split at enters
  · cases enters
  · rename_i below found
    split at enters
    · rename_i exists_below
      obtain rfl := Except.ok.inj enters
      obtain rfl := child_eq_ok found
      intro above inside
      obtain rfl | inside := List.prefix_concat_iff.mp inside
      · exact exists_below
      · exact reaches above inside
    · split at enters <;> cases enters

theorem Reaches.follow {parts : List String} (reaches : files.Reaches directory)
    (follows : parts.foldlM (files.enter name) directory = .ok place) : files.Reaches place := by
  induction parts generalizing directory with
  | nil => exact Except.ok.inj follows ▸ reaches
  | cons part parts induction =>
      rw [List.foldlM_cons] at follows
      obtain ⟨below, enters, follows⟩ := bind_eq_ok.mp follows
      exact induction (reaches.enter enters) follows

theorem isDirectory_put (reaches : files.Reaches directory) (other : Place) :
    (files.put (directory ++ [last]) content).isDirectory other = files.isDirectory other := by
  have covered : (decide (other.length < (directory ++ [last]).length) &&
      other.isPrefixOf (directory ++ [last])) = true → files.isDirectory other = true := by
    intro below
    simp only [Bool.and_eq_true, decide_eq_true_eq, List.isPrefixOf_iff_prefix] at below
    obtain rfl | inside := List.prefix_concat_iff.mp below.2
    · exact absurd below.1 (Nat.lt_irrefl _)
    · exact reaches other inside
  unfold put
  split
  · simp only [isDirectory, List.any_map]
    rfl
  · simp only [isDirectory, List.any_append, List.any_cons, List.any_nil,
      Bool.or_false] at covered ⊢
    rw [← Bool.or_assoc]
    exact Bool.or_eq_left_iff_imp.mpr covered

theorem enter_put {above : Place} (reaches : files.Reaches directory)
    (enters : files.enter name above part = .ok place) :
    (files.put (directory ++ [last]) content).enter name above part = .ok place := by
  unfold enter at enters ⊢
  split at enters
  · rwa [if_pos ‹_›]
  rw [if_neg ‹_›]
  split at enters
  · rwa [if_pos ‹_›]
  rw [if_neg ‹_›]
  split at enters
  · cases enters
  · simp only [isDirectory_put reaches]
    split at enters
    · rwa [if_pos ‹_›]
    · split at enters <;> cases enters

theorem follow_put {parts : List String} {above : Place} (reaches : files.Reaches directory)
    (follows : parts.foldlM (files.enter name) above = .ok place) :
    parts.foldlM ((files.put (directory ++ [last]) content).enter name) above = .ok place := by
  induction parts generalizing above with
  | nil => exact follows
  | cons part parts induction =>
      rw [List.foldlM_cons] at follows ⊢
      obtain ⟨below, enters, follows⟩ := bind_eq_ok.mp follows
      exact bind_eq_ok.mpr ⟨below, enter_put reaches enters, induction follows⟩

/-- Where the file of a name is, or may be: in a directory that exists, and no directory itself. -/
theorem locate_eq_ok_iff :
    files.locate name writing = .ok place ↔
      name ≠ "" ∧ ¬ nameLimit ≤ name.utf8ByteSize ∧ name.endsWith "/" = false ∧
      ∃ directory last,
        (parts name).dropLast.foldlM (files.enter name)
          (if name.startsWith "/" then [] else home) = .ok directory ∧
        (parts name).getLast? = some last ∧ last ≠ "." ∧ last ≠ ".." ∧
        child name directory last = .ok place ∧ files.isDirectory place = false := by
  constructor
  · intro found
    simp only [locate] at found
    split at found
    · obtain ⟨_, thrown, -⟩ := bind_eq_ok.mp found
      cases thrown
    rename_i named
    split at found
    · obtain ⟨_, thrown, -⟩ := bind_eq_ok.mp found
      cases thrown
    rename_i short
    obtain ⟨directory, follows, found⟩ := bind_eq_ok.mp found
    split at found
    · cases found
    · cases found
    · cases found
    rename_i last here above ends
    split at found
    · split at found
      · obtain ⟨_, -, found⟩ := bind_eq_ok.mp found
        obtain ⟨_, thrown, -⟩ := bind_eq_ok.mp found
        cases thrown
      · obtain ⟨_, thrown, -⟩ := bind_eq_ok.mp found
        cases thrown
    rename_i open_ended
    obtain ⟨below, named_below, found⟩ := bind_eq_ok.mp found
    split at found
    · cases found
    rename_i free
    obtain rfl := Except.ok.inj found
    exact ⟨named, short, Bool.eq_false_iff.mpr open_ended, directory, last, follows, ends, here,
      above, named_below, Bool.eq_false_iff.mpr free⟩
  · rintro ⟨named, short, open_ended, directory, last, follows, ends, here, above, below, free⟩
    simp only [locate]
    rw [if_neg named, if_neg short]
    refine bind_eq_ok.mpr ⟨directory, follows, ?_⟩
    rw [ends]
    split
    · cases ‹_›
    · exact absurd (Option.some.inj ‹_›) here
    · exact absurd (Option.some.inj ‹_›) above
    · obtain rfl := Option.some.inj ‹_›
      rw [if_neg (by simp [open_ended])]
      refine bind_eq_ok.mpr ⟨place, below, ?_⟩
      rw [if_neg (by simp [free])]
      rfl

end Locating

section Writing

/-- What was written is read under the same name, unless it went to a device. -/
theorem read_put (found : files.locate name writing = .ok place) (regular : place ≠ nullDevice) :
    (files.put place content).read name = .ok content := by
  obtain ⟨named, short, open_ended, directory, last, follows, ends, here, above, below, free⟩ :=
    locate_eq_ok_iff.mp found
  obtain rfl := child_eq_ok below
  have reaches : files.Reaches directory := by
    refine Reaches.follow ?_ follows
    split
    · exact reaches_root
    · exact reaches_home
  have again : (files.put (directory ++ [last]) content).locate name false =
      .ok (directory ++ [last]) := by
    refine locate_eq_ok_iff.mpr ⟨named, short, open_ended, directory, last,
      follow_put reaches follows, ends, here, above, below, ?_⟩
    rwa [isDirectory_put reaches]
  have held := (changes_put files (directory ++ [last]) content).held regular
  simp only [read, again, held]

/-- A file that can be written gets what is written, and is the only one that changes. -/
theorem exists_changes (writable : ∀ content, ∃ stored, files.write name content = .ok stored)
    (writes : files.write name content = .ok later) :
    ∃ place, files.locate name true = .ok place ∧ files.Changes place content later ∧
      (place ≠ nullDevice → later.read name = .ok content) := by
  cases found : files.locate name true with
  | error error =>
      rw [write, found] at writes
      cases writes
  | ok place =>
      have spacious : place ≠ fullDevice := by
        rintro rfl
        obtain ⟨stored, writes⟩ := writable [0]
        rw [write, found] at writes
        cases writes
      simp only [write, found, if_neg spacious] at writes
      refine ⟨place, rfl, ?_⟩
      split at writes
      · rename_i swallows
        obtain rfl := Except.ok.inj writes
        exact ⟨⟨fun regular => absurd swallows regular, fun _ _ => rfl⟩,
          fun regular => absurd swallows regular⟩
      · obtain rfl := Except.ok.inj writes
        exact ⟨changes_put files place content, read_put found⟩

end Writing
end Files
end Xmodem.CommandLine
