import Mathlib.Data.List.Forall2
import GrantProbe.Config
import GrantProbe.Proofs.FirstOccurrences
import GrantProbe.Proofs.Text.Pieces

/-!
# The list of workspaces

A run's workspaces are given in one text. What is read of it is a normal form: writing the list with
commas and reading it again changes nothing, and two texts with a comma between them are read one
after the other.

* `namesGiven`: the names in a text, repetitions included; `namesGiven_append`, `namesGiven_intercalate`;
* `IsWorkspaceName`: a name that can stand in a list;
* `parseWorkspaces_is_normal_form`: the list that is read.
-/

namespace GrantProbe

open Text (IsTrimmed Trims)

/-- **A name that can stand in a list:** it is not empty, and has no comma in it and no blanks
around it. -/
structure IsWorkspaceName (name : String) : Prop where
  ne_empty : name ≠ ""
  no_comma : ',' ∉ name.toList
  trimmed : IsTrimmed name.toList

/-- **The names in a text,** in order and with their repetitions. -/
def namesGiven (raw : String) : List String :=
  ((Text.pieces ',' raw).map Text.trim).filter (! ·.isEmpty)

theorem parseWorkspaces_eq (raw : String) : parseWorkspaces raw = (namesGiven raw).eraseDups := rfl

theorem mem_parseWorkspaces {raw name : String} :
    name ∈ parseWorkspaces raw ↔ name ∈ namesGiven raw := by
  rw [parseWorkspaces_eq, List.mem_eraseDups]

theorem isWorkspaceName_of_mem {raw name : String} (h : name ∈ namesGiven raw) :
    IsWorkspaceName name := by
  obtain ⟨hname, hempty⟩ := List.mem_filter.mp h
  obtain ⟨piece, hpiece, rfl⟩ := List.mem_map.mp hname
  obtain ⟨cs, hcs, rfl⟩ := List.mem_map.mp hpiece
  have htrims := Text.trims_trim (String.ofList cs)
  rw [String.toList_ofList] at htrims
  refine ⟨?_, fun hcomma => ?_, htrims.isTrimmed⟩
  · simpa using hempty
  · exact Text.not_mem_of_mem_splitAtEach hcs (htrims.subset hcomma)

theorem exists_trimmed_pieces (raw : String) : ∃ names : List String,
    List.Forall₂ (fun piece name => Trims piece name.toList) (raw.toList.splitOn ',') names ∧
      namesGiven raw = names.filter (· ≠ "") := by
  refine ⟨(Text.pieces ',' raw).map Text.trim, ?_, ?_⟩
  · rw [Text.pieces, List.map_map, List.forall₂_map_right_iff, Text.splitAtEach_eq_splitOn,
      List.forall₂_same]
    intro piece _
    have htrims := Text.trims_trim (String.ofList piece)
    rwa [String.toList_ofList] at htrims
  · refine List.filter_congr fun name _ => ?_
    rw [Bool.eq_iff_iff]
    simp

/-- **Two texts with a comma between them** hold the names of the one and then those of the other. -/
theorem namesGiven_append (raw more : String) :
    namesGiven (raw ++ "," ++ more) = namesGiven raw ++ namesGiven more := by
  have hlist : (raw ++ "," ++ more).toList = raw.toList ++ ',' :: more.toList := by
    simp
  simp only [namesGiven, Text.pieces, hlist, Text.splitAtEach_append, List.map_append,
    List.filter_append]

/-- **Names with commas between them** are read as they are. -/
theorem namesGiven_intercalate {names : List String} (h : ∀ name ∈ names, IsWorkspaceName name) :
    namesGiven (",".intercalate names) = names := by
  rcases eq_or_ne names [] with rfl | hne
  · rfl
  have hpieces : Text.pieces ',' (",".intercalate names) = names := by
    have hcomma : ∀ piece ∈ names.map String.toList, ',' ∉ piece := by
      intro piece hpiece
      obtain ⟨name, hname, rfl⟩ := List.mem_map.mp hpiece
      exact (h name hname).no_comma
    rw [Text.pieces, Text.splitAtEach_eq_splitOn, String.toList_intercalate]
    rw [show ",".toList = [','] from rfl, List.splitOn_intercalate ',' hcomma (by simpa using hne)]
    simp
  have htrim : names.map Text.trim = names :=
    (List.map_congr_left fun name hname => Text.trim_of_isTrimmed (h name hname).trimmed).trans
      (List.map_id names)
  rw [namesGiven, hpieces, htrim, List.filter_eq_self]
  intro name hname
  simpa using (h name hname).ne_empty

/-- **The list of workspaces is a normal form.** The text is split at its commas and each piece
trimmed; what is read are the names that are left, each where it occurs first. They can stand in a
list, no two are the same, and the list of them is read as itself. Behind the names of a text come
those of a text that follows a comma, as far as they are new. -/
theorem parseWorkspaces_is_normal_form (raw : String) :
    (∃ names : List String,
      List.Forall₂ (fun piece name => Trims piece name.toList) (raw.toList.splitOn ',') names ∧
        FirstOccurrences (parseWorkspaces raw) (names.filter (· ≠ ""))) ∧
    (∀ name ∈ parseWorkspaces raw, IsWorkspaceName name) ∧
    (parseWorkspaces raw).Nodup ∧
    parseWorkspaces (",".intercalate (parseWorkspaces raw)) = parseWorkspaces raw ∧
    ∀ more : String, parseWorkspaces (raw ++ "," ++ more) =
      parseWorkspaces raw ++ (parseWorkspaces more).filter (· ∉ parseWorkspaces raw) := by
  have hfirsts : FirstOccurrences (parseWorkspaces raw) (namesGiven raw) :=
    firstOccurrences_eraseDups (namesGiven raw)
  have hname : ∀ name ∈ parseWorkspaces raw, IsWorkspaceName name := fun name h =>
    isWorkspaceName_of_mem (mem_parseWorkspaces.mp h)
  refine ⟨?_, hname, hfirsts.nodup, ?_, fun more => ?_⟩
  · obtain ⟨names, hnames, hfilter⟩ := exists_trimmed_pieces raw
    exact ⟨names, hnames, hfilter ▸ hfirsts⟩
  · rw [parseWorkspaces_eq (",".intercalate _), namesGiven_intercalate hname,
      eraseDups_of_nodup hfirsts.nodup]
  · rw [parseWorkspaces_eq, namesGiven_append, List.eraseDups_append, List.removeAll, eraseDups_filter]
    refine congrArg (parseWorkspaces raw ++ ·) (List.filter_congr fun name _ => ?_)
    simp [mem_parseWorkspaces]

/-- A list with blanks, an empty name, a repetition and an ideographic space. -/
theorem teamList_is_normal :
    parseWorkspaces " team-a,\u3000team-b ,,team-a" = ["team-a", "team-b"] ∧
      IsWorkspaceName "team-b" ∧ parseWorkspaces "team-a,team-b" = ["team-a", "team-b"] := by
  have hlist : parseWorkspaces " team-a,\u3000team-b ,,team-a" = ["team-a", "team-b"] := by
    decide +kernel
  obtain ⟨-, hname, -, hagain, -⟩ := parseWorkspaces_is_normal_form " team-a,\u3000team-b ,,team-a"
  rw [hlist] at hname hagain
  exact ⟨hlist, hname "team-b" (by simp), hagain⟩

end GrantProbe
