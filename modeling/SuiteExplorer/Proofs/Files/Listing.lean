/-
  SuiteExplorer/Proofs/Files/Listing.lean
  =======================================
  **Which files a workspace has, told by the walk and told by their paths.**

  A listing walks down from its root and enters neither links nor excluded directories;
  whether a file is a candidate is told from its path alone.  Below a root that does not
  itself lie among ancillary data the two agree on every file named like a test file that
  is reached without a link on the way (`listing_exact`), however deep the tree is and
  wherever excluded names stand in it.  They part where the path goes another way than the
  walk, and the walk does not ask whether there is a file at all
  (`linkedWorkspace_disagrees`).

  The include pattern has a law of its own.  A stretch also crosses separators, so a
  leading `**/` takes whole directories off the front of a path, and nothing else: what
  is left is the path itself or what follows one of its slashes
  (`includes_anywhere_iff`).
-/
import SuiteExplorer.Proofs.Watch.Filter

namespace SuiteExplorer

/-! ## 1. Patterns for any directory -/

namespace Text.Glob

/-- A stretch up to a character ends at one of its places. -/
theorem describes_stretch_only_iff {c : Char} {pieces : Glob} {s : List Char} :
    Describes (.stretch :: .one (.only c) :: pieces) s ↔
      ∃ before after, s = before ++ c :: after ∧ Describes pieces after := by
  constructor
  · intro h
    cases h with
    | stretch before hrest =>
      cases hrest with
      | one hc hafter =>
        obtain rfl := CharSet.only_has.mp hc
        exact ⟨before, _, rfl, hafter⟩
  · rintro ⟨before, after, rfl, hafter⟩
    exact .stretch before (.one (CharSet.only_has.mpr rfl) hafter)

/-- The two stars are one stretch, and the slash is the end of it; the pattern behind
    them is read as if it stood alone. -/
theorem ofString_anywhere (pattern : String) :
    ofString ("**/" ++ pattern) = .stretch :: .one (.only '/') :: ofString pattern := by
  have hlist : ("**/" ++ pattern).toList = '*' :: '*' :: '/' :: pattern.toList := by
    rw [String.toList_append]
    rfl
  have hlength : ("**/" ++ pattern).length = pattern.length + 3 := by
    rw [← String.length_toList, hlist, List.length_cons, List.length_cons, List.length_cons,
      String.length_toList]
  rw [ofString, hlist, hlength, ofChars, ofChars, ofChars]
  rfl

end Text.Glob

namespace Exclusion

/-- **A pattern for any directory** includes the paths that the pattern describes, whole
    or behind one of their slashes. -/
theorem includes_anywhere_iff (pattern relative : String) :
    includes ("**/" ++ pattern) relative ↔
      (Text.Glob.ofString pattern).Describes relative.toList ∨
        ∃ before after : String, relative = before ++ "/" ++ after ∧
          (Text.Glob.ofString pattern).Describes after.toList := by
  have hlist : ("**/" ++ pattern).toList = anywhere ++ pattern.toList := String.toList_append
  have hanywhere : anywhere.isPrefixOf ("**/" ++ pattern).toList = true := by
    rw [hlist]
    exact List.isPrefixOf_iff_prefix.mpr (List.prefix_append _ _)
  have hdrop : String.ofList (("**/" ++ pattern).toList.drop 3) = pattern := by
    rw [hlist]
    exact String.ofList_toList
  rw [includes, hanywhere, hdrop, Text.Glob.ofString_anywhere, Bool.true_and, Bool.or_eq_true,
    Text.Glob.accepts_iff, Text.Glob.accepts_iff, Text.Glob.describes_stretch_only_iff, or_comm]
  refine or_congr_right ⟨?_, ?_⟩
  · rintro ⟨before, after, hsplit, hafter⟩
    refine ⟨.ofList before, .ofList after, ?_, by rwa [String.toList_ofList]⟩
    rw [← String.toList_inj, hsplit]
    simp
  · rintro ⟨before, after, rfl, hafter⟩
    exact ⟨before.toList, after.toList, by simp, hafter⟩

/-! ## 2. The walk and the path -/

/-- Neither a directory that is entered nor a test file is called like ancillary data. -/
theorem dataDirectory_not_mem {names extra : List String} (hne : names ≠ [])
    (hending : (names.getLast hne).endsWith testFileEnding = true)
    (hdirs : ∀ n ∈ names.dropLast, prunes extra n = false) : dataDirectory ∉ names := by
  intro hdata
  rw [← List.dropLast_concat_getLast hne, List.mem_append, List.mem_singleton] at hdata
  rcases hdata with hdata | hdata
  · exact absurd (hdirs _ hdata) (by simp [prunes, builtIn])
  · rw [← hdata] at hending
    exact absurd hending (by decide +kernel)

end Exclusion

namespace FileTree

open Exclusion

/-- **A listing is exact, and the path of a file tells whether it is listed.** The entries
    below the root that are no directories, also when links are followed, and that the
    pattern describes, with neither a link nor an excluded directory on the way, are listed
    once each, and nothing else is.  Among them are all files that are reached so.  Of
    those named like test files, these are the candidates that the pattern describes, unless
    the root lies among ancillary data. -/
theorem listing_exact {t : FileTree} (ht : t.Distinct) (root : Path) (pattern : String)
    (extra : List String) :
    (t.listing root pattern extra).Nodup ∧
    (∀ q, q ∈ t.listing root pattern extra ↔ ∃ names, q = root.down names ∧
      t.EntryBelow root names ∧ t.isFolderAt q = false ∧
        includes pattern (Path.relative names).text ∧
          ∀ n ∈ names.dropLast, prunes extra n = false) ∧
    (∀ names, t.FileBelow root names →
      (root.down names ∈ t.listing root pattern extra ↔
        includes pattern (Path.relative names).text ∧
          ∀ n ∈ names.dropLast, prunes extra n = false)) ∧
    (dataDirectory ∉ root.names → ∀ names, t.FileBelow root names →
      (root.down names).name.endsWith testFileEnding → ignoresName (root.down names).name = false →
        (isCandidate (root.down names) (some root) extra ∧
            includes pattern (Path.relative names).text ↔
          root.down names ∈ t.listing root pattern extra)) := by
  have hfiles : ∀ names, t.FileBelow root names →
      (root.down names ∈ t.listing root pattern extra ↔
        includes pattern (Path.relative names).text ∧
          ∀ n ∈ names.dropLast, prunes extra n = false) :=
    fun names hfile => hfile.mem_listing_iff ht
  refine ⟨nodup_listing ht root pattern extra, fun q => mem_listing_iff ht, hfiles,
    fun hroot names hfile hending hname => ?_⟩
  rw [hfiles names hfile, isCandidate_down]
  constructor
  · rintro ⟨⟨-, -, -, hdirs⟩, hincludes⟩
    exact ⟨hincludes, hdirs⟩
  · rintro ⟨hincludes, hdirs⟩
    refine ⟨⟨hending, fun hdata => ?_, hname, hdirs⟩, hincludes⟩
    -- ancillary data would have to be above the root, on the way, or the file itself
    rcases List.mem_append.mp hdata with hdata | hdata
    · exact hroot hdata
    · rw [Path.name_down hfile.below] at hending
      exact dataDirectory_not_mem hfile.below hending hdirs hdata

/-- A root among dependencies, with a link to a file in it, a file in a directory, and one
    that is hidden among ancillary data. -/
def nestedWorkspace : FileTree :=
  folder [("w", folder [("vendor", folder [("p", folder [
    ("a_test.go", link (.ofString "sub/b_test.go")),
    ("sub", folder [("b_test.go", file []), ("testdata", folder [("c_test.go", file [])])])])])])]

theorem distinct_nestedWorkspace : nestedWorkspace.Distinct := by
  have hdata : (folder [("c_test.go", file [])]).Distinct :=
    .folder _ (by decide) (by decide) (List.forall_mem_singleton.mpr (.file []))
  have hsub : (folder [("b_test.go", file []),
      ("testdata", folder [("c_test.go", file [])])]).Distinct :=
    .folder _ (by decide) (by decide)
      (List.forall_mem_cons.mpr ⟨.file [], List.forall_mem_singleton.mpr hdata⟩)
  refine .folder _ (by decide) (by decide) (List.forall_mem_singleton.mpr ?_)
  refine .folder _ (by decide) (by decide) (List.forall_mem_singleton.mpr ?_)
  refine .folder _ (by decide) (by decide) (List.forall_mem_singleton.mpr ?_)
  exact .folder _ (by decide) (by decide)
    (List.forall_mem_cons.mpr ⟨.link _, List.forall_mem_singleton.mpr hsub⟩)

theorem listing_exact_nestedWorkspace :
    let root := Path.ofString "/w/vendor/p"
    dataDirectory ∉ root.names ∧ nestedWorkspace.FileBelow root ["a_test.go"] ∧
      nestedWorkspace.FileBelow root ["sub", "testdata", "c_test.go"] ∧
      root.down ["a_test.go"] ∈ nestedWorkspace.listing root "**/*_test.go" ["tmp"] ∧
      root.down ["sub", "testdata", "c_test.go"] ∉
        nestedWorkspace.listing root "**/*_test.go" ["tmp"] := by
  have hexact := listing_exact distinct_nestedWorkspace (.ofString "/w/vendor/p") "**/*_test.go"
    ["tmp"]
  have ha : nestedWorkspace.FileBelow (.ofString "/w/vendor/p") ["a_test.go"] :=
    ⟨⟨by decide, by decide +kernel⟩, by decide +kernel⟩
  have hc : nestedWorkspace.FileBelow (.ofString "/w/vendor/p") ["sub", "testdata", "c_test.go"] :=
    ⟨⟨by decide, by decide +kernel⟩, by decide +kernel⟩
  refine ⟨by decide +kernel, ha, hc, ?_, ?_⟩
  · exact (hexact.2.2.2 (by decide +kernel) _ ha (by decide +kernel) (by decide +kernel)).mp
      (by decide +kernel)
  · exact mt (hexact.2.2.2 (by decide +kernel) _ hc (by decide +kernel) (by decide +kernel)).mpr
      (by decide +kernel)

/-! ### 2.1 Where the walk and the path part -/

/-- A directory with a file, and a pipe further down; a link to the directory, and one that
    leads nowhere. -/
def linkedWorkspace : FileTree :=
  folder [("ws", folder [
    ("lib", folder [("a_test.go", file []), ("tmp", folder [("pipe_test.go", special)])]),
    ("sub", link (.ofString "lib")), ("gone_test.go", link (.ofString "old/gone_test.go"))])]

/-- What is no file is listed, too.  A file is not listed by a path through a link, although
    that is the path of a candidate; and no path that leads up again is that of a candidate,
    although the file that it leads to is listed. -/
theorem linkedWorkspace_disagrees :
    let root := Path.ofString "/ws"
    let listing := linkedWorkspace.listing root "**/*_test.go" []
    let linked := root.down ["sub", "a_test.go"]
    let roundabout := root.down ["sub", "..", "lib", "a_test.go"]
    let gone := root.down ["gone_test.go"]
    let pipe := root.down ["lib", "tmp", "pipe_test.go"]
    (gone ∈ listing ∧ linkedWorkspace.isFileAt gone = false ∧
      pipe ∈ listing ∧ linkedWorkspace.isFileAt pipe = false) ∧
    ((linkedWorkspace.read? linked).isSome ∧ isCandidate linked (some root) [] = true ∧
      includes "**/*_test.go" (Path.relative ["sub", "a_test.go"]).text = true ∧
      linked ∉ listing) ∧
    ((linkedWorkspace.read? roundabout).isSome ∧ isCandidate roundabout (some root) [] = false ∧
      includes "**/*_test.go" (Path.relative ["sub", "..", "lib", "a_test.go"]).text = true ∧
      root.down ["lib", "a_test.go"] ∈ listing) := by
  decide +kernel

end FileTree
end SuiteExplorer
