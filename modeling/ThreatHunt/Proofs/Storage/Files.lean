import Mathlib.Data.String.Basic
import ThreatHunt.Proofs.Storage.Loading
import ThreatHunt.Storage.TableFile

/-!
Files that were written. A path leads to the same place before and after a file is written, since no
directory on the way is replaced, and what lies there then is the file.
-/

namespace ThreatHunt

open Outcome (bind_eq_ok)
open String (utf8Len ofList)

namespace Path

/-- The splitting goes on from a place: `m` is the part under way, `acc` the parts before it. -/
theorem splitOnAux_slash (l m r : List Char) (acc : List String) :
    String.splitOnAux (ofList (l ++ m ++ r)) "/" ⟨utf8Len l⟩ ⟨utf8Len (l ++ m)⟩ 0 acc =
      acc.reverse ++ (List.splitOnPPrepend (· == '/') r m.reverse).map ofList := by
  have slash : String.Pos.Raw.get "/" 0 = '/' := by decide
  have behind : String.Pos.Raw.next "/" 0 = ⟨1⟩ := by decide
  have ended : String.Pos.Raw.atEnd "/" ⟨1⟩ = true := by decide
  induction r generalizing l m acc with
  | nil =>
    have past := (String.atEnd_of_valid (l ++ m) []).2 rfl
    have part := String.extract_of_valid l m []
    rw [String.splitOnAux.eq_def, if_pos past, String.utf8Len_append, part]
    simp
  | cons c r ih =>
    have more : ¬String.Pos.Raw.atEnd (ofList (l ++ m ++ c :: r)) ⟨utf8Len (l ++ m)⟩ = true :=
      fun past => nomatch (String.atEnd_of_valid (l ++ m) (c :: r)).1 past
    have here := String.get_of_valid (l ++ m) (c :: r)
    have next := String.next_of_valid (l ++ m) c r
    have part := String.extract_of_valid l m (c :: r)
    rw [String.splitOnAux.eq_def, if_neg more, here, slash, List.splitOnPPrepend_cons_eq_if]
    simp only [List.headD_cons, next, behind, ended, if_true]
    split
    · rename_i same
      obtain rfl := eq_of_beq same
      have width : utf8Len (l ++ m ++ ['/']) = utf8Len (l ++ m) + '/'.utf8Size :=
        String.utf8Len_append _ _
      have start : (⟨utf8Len (l ++ m) + '/'.utf8Size⟩ : String.Pos.Raw).unoffsetBy ⟨1⟩ =
          ⟨utf8Len l + utf8Len m⟩ := by
        rw [String.utf8Len_append]
        rfl
      have rest := ih (l ++ m ++ ['/']) [] (ofList m :: acc)
      rw [List.append_nil, List.append_assoc (l ++ m), List.singleton_append, width] at rest
      rw [start, part, rest]
      simp
    · have width : utf8Len (l ++ (m ++ [c])) = utf8Len (l ++ m) + c.utf8Size := by
        rw [← List.append_assoc, String.utf8Len_append (l ++ m), String.utf8Len_cons]
        exact congrArg _ (Nat.zero_add _)
      have rest := ih l (m ++ [c]) acc
      rw [width, ← List.append_assoc l m, List.append_assoc (l ++ m), List.singleton_append,
        List.reverse_append] at rest
      have same : (⟨utf8Len (l ++ m)⟩ : String.Pos.Raw).unoffsetBy 0 = ⟨utf8Len (l ++ m)⟩ := rfl
      rw [same, next, rest]
      rfl

/-- The parts of a text between slashes. -/
theorem splitOn_slash (s : String) : s.splitOn "/" = (s.toList.splitOn '/').map ofList := by
  have parts := splitOnAux_slash [] [] s.toList []
  rw [List.nil_append, List.nil_append, String.ofList_toList] at parts
  exact parts

/-- An absolute path has nothing before its first slash, and something behind it. -/
theorem splitOn_absolute {path : String} (absolute : isAbsolute path = true) :
    ∃ part rest, path.splitOn "/" = "" :: part :: rest := by
  obtain ⟨cs, chars⟩ : ∃ cs, path.toList = '/' :: cs := by
    cases chars : path.toList with
    | nil => simp [isAbsolute, chars] at absolute
    | cons c cs =>
      obtain rfl : c = '/' := by simpa [isAbsolute, chars] using absolute
      exact ⟨cs, rfl⟩
  obtain ⟨part, rest, parts⟩ : ∃ part rest, cs.splitOn '/' = part :: rest :=
    List.exists_cons_of_ne_nil (List.splitOnP_ne_nil (· == '/') cs)
  have split : ('/' :: cs).splitOn '/' = [] :: cs.splitOn '/' :=
    List.splitOnP_cons_eq_if_modifyHead '/' cs
  exact ⟨ofList part, rest.map ofList, by rw [splitOn_slash, chars, split, parts]; rfl⟩

end Path

namespace Disk

variable {d d' : Disk} {here there place : Place} {path name : String} {content : FileContent}

/-- The disk with a file at a place. -/
def withFile (d : Disk) (place : Place) (content : FileContent) : Disk :=
  ⟨d.entries.insert place.key (.file content)⟩

/-- A disk whose directories are all on another. -/
def KeepsDirectories (d d' : Disk) : Prop :=
  ∀ p, d.entry? p = some .directory → d'.entry? p = some .directory

theorem keepsDirectories_withFile (free : d.entry? place ≠ some .directory) :
    d.KeepsDirectories (d.withFile place content) := by
  intro p directory
  unfold entry? at directory free ⊢
  split at directory
  · rename_i fixed
    rw [if_pos fixed]
  · rename_i own
    rw [if_neg own, withFile, Dict.find?_insert]
    split
    · rename_i same
      split at free
      · exact absurd rfl free
      · exact absurd (same ▸ directory) free
    · exact directory

/-- What can be reached on a disk is reached in the same way where its directories are kept. -/
theorem follow_of_keeps (keeps : d.KeepsDirectories d') {parts : List String}
    (followed : d.follow here parts = .ok there) : d'.follow here parts = .ok there := by
  induction parts generalizing here with
  | nil => exact followed
  | cons part rest ih =>
    unfold follow at followed ⊢
    split at followed
    · cases followed
    · cases followed
    · rename_i directory
      rw [keeps here directory]
      dsimp only
      split at followed
      · rename_i stays
        rw [if_pos stays]
        exact ih followed
      · rename_i moves
        rw [if_neg moves]
        split at followed
        · rename_i up
          rw [if_pos up]
          exact ih followed
        · rename_i down
          rw [if_neg down]
          exact ih followed

theorem follow_append (d : Disk) (here : Place) (front back : List String) :
    d.follow here (front ++ back) = (d.follow here front >>= fun p => d.follow p back) := by
  induction front generalizing here with
  | nil => rfl
  | cons part rest ih =>
    rw [List.cons_append, follow, follow]
    cases d.entry? here with
    | none => rfl
    | some entry =>
      cases entry with
      | file content => rfl
      | directory =>
        dsimp only
        rw [ih, ih, ih]
        repeat' split
        all_goals rfl

/-- A name of an entry is followed into a directory. -/
theorem follow_name (directory : d.entry? here = some .directory)
    (named : name ≠ "" ∧ name ≠ "." ∧ name ≠ "..") :
    d.follow here [name] = .ok (here.down name) := by
  simp [follow, directory, named]

theorem follow_dot_eq_ok (followed : d.follow here ["."] = .ok there) :
    here = there ∧ d.entry? here = some .directory := by
  unfold follow at followed
  split at followed
  · cases followed
  · cases followed
  · rename_i directory
    exact ⟨by simpa [follow] using followed, directory⟩

/-- Where a file is written: the path leads through directories to a name in one of them. -/
structure Leads (d : Disk) (path : String) (here : Place) (name : String) : Prop where
  front : ∃ front, d.follow ⟨Path.isAbsolute path, []⟩ front = .ok here ∧
    ∀ e : Disk, e.locate path = e.follow ⟨Path.isAbsolute path, []⟩ (front ++ [name])
  directory : d.entry? here = some .directory
  named : name ≠ "" ∧ name ≠ "." ∧ name ≠ ".."

/-- A path leads to the last of its parts. -/
theorem locate_eq {front : List String} (some : path ≠ "")
    (parts : path.splitOn "/" = front ++ [name]) :
    d.locate path = d.follow ⟨Path.isAbsolute path, []⟩
      ((if Path.isAbsolute path then front.drop 1 else front) ++ [name]) := by
  rw [locate, if_neg (by simpa using some)]
  cases absolute : Path.isAbsolute path with
  | false => rw [if_neg (by simp), if_neg (by simp), parts]
  | true =>
    obtain ⟨part, rest, split⟩ := Path.splitOn_absolute absolute
    rw [if_pos rfl, if_pos rfl]
    cases front with
    | nil => simp [split] at parts
    | cons first front => rw [parts]; rfl

/-- Where no part is dropped at the end of a path, its last part is not empty. -/
theorem last_ne_blank {parts : List String}
    (whole : (parts.reverse.dropWhile (· == "")).reverse = parts)
    (last : parts.getLast? = some name) : name ≠ "" := by
  have shown := List.head?_dropWhile_not (· == "") parts.reverse
  rw [← List.getLast?_reverse, whole, last] at shown
  simpa using shown

theorem dropBlanks_eq {parts : List String}
    (long : ¬(parts.reverse.dropWhile (· == "")).reverse.length < parts.length) :
    (parts.reverse.dropWhile (· == "")).reverse = parts := by
  have suffix := List.dropWhile_suffix (· == "") (l := parts.reverse)
  rw [suffix.eq_of_length_le (by simpa using Nat.not_lt.1 long), List.reverse_reverse]

theorem write_eq_ok (written : d.write path content = .ok d') :
    ∃ here name, d.Leads path here name ∧ d.entry? (here.down name) ≠ some .directory ∧
      d' = d.withFile (here.down name) content := by
  unfold write at written
  extract_lets parts names front at written
  split at written
  · cases written
  · rename_i nonempty
    obtain ⟨here, followed, rest⟩ := bind_eq_ok.1 written
    split at rest
    · cases rest
    · rename_i name last
      extract_lets place at rest
      split at rest
      · cases rest
      · rename_i plain
        simp only [Bool.or_eq_true, decide_eq_true_eq, beq_iff_eq, not_or] at plain
        obtain ⟨⟨long, dot⟩, dots⟩ := plain
        have whole : names = parts := dropBlanks_eq long
        have reaches : front = if Path.isAbsolute path then parts.dropLast.drop 1
            else parts.dropLast := by rw [← whole]
        rw [whole] at last
        rw [reaches] at followed
        have split : parts = parts.dropLast ++ [name] :=
          (List.dropLast_append_getLast? name last).symm
        obtain ⟨before, reached, inside⟩ := bind_eq_ok.1 ((follow_append ..).symm.trans followed)
        obtain ⟨rfl, directory⟩ := follow_dot_eq_ok inside
        split at rest
        · cases rest
        · rename_i free
          refine ⟨before, name, ⟨⟨_, reached, fun e => ?_⟩, directory, ?_⟩, free,
            (Except.ok.inj rest).symm⟩
          · exact e.locate_eq (by simpa using nonempty) split
          · exact ⟨last_ne_blank whole last, dot, dots⟩

theorem entry?_withFile (named : name ≠ "..") :
    entry? (d.withFile (here.down name) content) (here.down name) = some (.file content) := by
  have own : (here.down name).isFixed = false := by simp [Place.isFixed, Place.down, named]
  unfold entry?
  rw [if_neg (by simp [own]), withFile, Dict.find?_insert, if_pos rfl]

/-- What was written is read. -/
theorem read_of_write (written : d.write path content = .ok d') : d'.read path = .ok content := by
  obtain ⟨here, name, ⟨⟨front, followed, located⟩, directory, named⟩, free, rfl⟩ :=
    write_eq_ok written
  have keeps : d.KeepsDirectories (d.withFile (here.down name) content) :=
    keepsDirectories_withFile free
  have place : (d.withFile (here.down name) content).locate path = .ok (here.down name) := by
    rw [located, follow_append, follow_of_keeps keeps followed]
    exact follow_name (keeps here directory) named
  rw [read, lookup, place]
  simp only [bind, Except.bind, entry?_withFile named.2.2]

end Disk

namespace TableFile

variable {d d' : Disk} {path : String} {t : Table}

/-- Where a table is written, a file has its content. -/
theorem write_eq_ok (written : write d path t = (d', .ok ())) :
    ∃ file, content (formOf path) t = .ok file ∧ d'.read path = .ok file := by
  unfold write at written
  split at written
  · cases written
  · rename_i prepared _
    split at written
    · cases written
    · rename_i disk done
      obtain rfl : disk = d' := congrArg Prod.fst written
      obtain ⟨file, made, stored⟩ := bind_eq_ok.1 done
      exact ⟨file, made, Disk.read_of_write (Outcome.mapError_eq_ok.1 stored)⟩

theorem holds_of_read {file : FileContent} (found : d.read path = .ok file) :
    d.holds path = true := by
  obtain ⟨entry, there, _⟩ := bind_eq_ok.1 found
  rw [Disk.holds, there]
  rfl

/-- A file with a text is read as a document by its extension. -/
theorem read_document {text : String} (form : formOf path = .document)
    (found : d.read path = .ok (.text text)) :
    TableFile.read d path none = ofJsonText none text := by
  unfold TableFile.read
  rw [holds_of_read found, form, Disk.readText, found]
  rfl

end TableFile
end ThreatHunt
