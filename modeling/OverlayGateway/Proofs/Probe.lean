import Mathlib.Data.List.Sort
import OverlayGateway.FileTree
import OverlayGateway.Probe
import OverlayGateway.Proofs.Text.Order
/-!
What the probe reports of a directory. A directory shows its entries twice: what is found under a
name, and which names a listing comes to. There is one right finding for what is shown
(`find_eq_iff`): the first well-known interface under whose name something is found, or else all
those with a usual name beginning that are listed, in order, or else nothing. So the order of a
listing does not matter, and a directory that is missing is as good as an empty one. Links that lead
nowhere, names that are no text and entries that cannot be listed go unreported.
-/

set_option autoImplicit false
set_option relaxedAutoImplicit false

namespace OverlayGateway

/-! ### What a directory shows -/

namespace Directory

/-- Whether something is found under a name. -/
def IsFound (directory : Directory) (name : String) : Prop :=
  ∃ entry ∈ directory.entries, entry.name = Text.utf8 name ∧ entry.leads = true

/-- Whether a listing comes to a name. -/
def IsListed (directory : Directory) (name : String) : Prop :=
  directory.opens = true ∧
    ∃ entry ∈ directory.entries, entry.name = Text.utf8 name ∧ entry.listed = true

variable {directory other : Directory} {name : String}

theorem holds_iff : directory.holds name = true ↔ directory.IsFound name := by
  simp only [holds, List.any_eq_true, Bool.and_eq_true, decide_eq_true_eq, IsFound]

theorem mem_names_iff : name ∈ directory.names ↔ directory.IsListed name := by
  unfold names IsListed
  split
  next hopens =>
    simp only [List.mem_filterMap, List.mem_filter, hopens, true_and]
    constructor
    · rintro ⟨entry, ⟨hmem, hlisted⟩, hname⟩
      exact ⟨entry, hmem, Text.eq_utf8_of_ofUtf8? hname, hlisted⟩
    · rintro ⟨entry, hmem, hname, hlisted⟩
      exact ⟨entry, ⟨hmem, hlisted⟩, by rw [hname, Text.ofUtf8?_utf8]⟩
  next hopens => exact iff_of_false List.not_mem_nil fun hlisted ↦ hopens hlisted.1

theorem nodup_names (directory : Directory) : directory.names.Nodup := by
  unfold names
  split
  · refine ((List.pairwise_map.1 directory.nodup).filter Entry.listed).filterMap _ ?_
    intro entry other hne name hname name' hname' hsame
    rw [Text.eq_utf8_of_ofUtf8? hname, Text.eq_utf8_of_ofUtf8? hname', hsame] at hne
    exact hne rfl
  · exact .nil

theorem isFound_of_perm (h : other.entries.Perm directory.entries) :
    other.IsFound = directory.IsFound := by
  funext name
  simp only [IsFound, h.mem_iff]

theorem isListed_of_perm (h : other.entries.Perm directory.entries)
    (hopens : other.opens = directory.opens) : other.IsListed = directory.IsListed := by
  funext name
  simp only [IsListed, h.mem_iff, hopens]

end Directory

namespace Probe

/-! ### Findings -/

/-- Whether a name starts like that of an overlay interface. -/
def Resembles (name : String) : Prop := ∃ rest, name = "wg" ++ rest ∨ name = "nm-" ++ rest

/-- Whether a name is the first one of the well-known interfaces that is found. -/
def IsPreferred (found : String → Prop) (name : String) : Prop :=
  found name ∧ ∃ before after,
    ["wg0", "netmaker", "wg1", "wg2"] = before ++ name :: after ∧ ∀ other ∈ before, ¬ found other

/-- Whether no well-known interface is found. -/
def LacksCandidates (found : String → Prop) : Prop :=
  ∀ name ∈ ["wg0", "netmaker", "wg1", "wg2"], ¬ found name

/-- Whether some names are those listed that start like overlay interfaces, each once and in the
order of their bytes. -/
structure AreSimilar (listed : String → Prop) (names : List String) : Prop where
  sorted : names.Pairwise fun name other ↦ Text.utf8 name < Text.utf8 other
  mem_iff : ∀ name, name ∈ names ↔ listed name ∧ Resembles name

/-- The findings that are right for what is found and what is listed. -/
inductive Shows (found listed : String → Prop) : Finding → Prop
  | candidate {name : String} (h : IsPreferred found name) : Shows found listed (.candidate name)
  | similar {names : List String} (hlacks : LacksCandidates found) (hsome : names ≠ [])
      (h : AreSimilar listed names) : Shows found listed (.similar names)
  | nothing (hlacks : LacksCandidates found) (hnone : ∀ name, listed name → ¬ Resembles name) :
      Shows found listed .nothing

theorem looksOverlay_iff {name : String} : looksOverlay name = true ↔ Resembles name := by
  have hprefix (beginning : String) :
      beginning.toList.isPrefixOf name.toList = true ↔ ∃ rest, name = beginning ++ rest := by
    rw [List.isPrefixOf_iff_prefix]
    constructor
    · rintro ⟨rest, hrest⟩
      refine ⟨.ofList rest, ?_⟩
      rw [← String.toList_inj, String.toList_append, String.toList_ofList, hrest]
    · rintro ⟨rest, rfl⟩
      exact ⟨rest.toList, String.toList_append.symm⟩
  simp only [looksOverlay, beginnings, List.any_cons, List.any_nil, Bool.or_false, Bool.or_eq_true,
    hprefix, Resembles, exists_or]

theorem AreSimilar.pairwise_lt {listed : String → Prop} {names : List String}
    (h : AreSimilar listed names) : names.Pairwise (· < ·) :=
  h.sorted.imp Text.utf8_lt_utf8_iff.1

/-- There is no other list of the same names. -/
theorem AreSimilar.unique {listed : String → Prop} {names others : List String}
    (h : AreSimilar listed names) (hothers : AreSimilar listed others) : names = others :=
  h.pairwise_lt.eq_of_mem_iff hothers.pairwise_lt fun name ↦
    (h.mem_iff name).trans (hothers.mem_iff name).symm

section Directories

variable {directory : Directory}

theorem preferred_iff {name : String} :
    candidates.find? directory.holds = some name ↔ IsPreferred directory.IsFound name := by
  simp only [List.find?_eq_some_iff_append, Directory.holds_iff, Bool.not_eq_eq_eq_not,
    Bool.not_true, ← Bool.not_eq_true, IsPreferred, candidates]

theorem lacksCandidates_iff :
    candidates.find? directory.holds = none ↔ LacksCandidates directory.IsFound := by
  simp only [List.find?_eq_none, Directory.holds_iff, LacksCandidates, candidates]

theorem areSimilar_mergeSort (directory : Directory) :
    AreSimilar directory.IsListed
      ((directory.names.filter looksOverlay).mergeSort fun a b ↦ decide (a ≤ b)) where
  sorted := by
    have hordered := (directory.names.filter looksOverlay).pairwise_mergeSort' (· ≤ ·)
    have hnodup :
        ((directory.names.filter looksOverlay).mergeSort fun a b ↦ decide (a ≤ b)).Nodup :=
      (List.mergeSort_perm _ _).nodup_iff.2 (directory.nodup_names.filter _)
    exact hordered.imp₂ (fun _ _ hle hne ↦ Text.utf8_lt_utf8_iff.2 (lt_of_le_of_ne hle hne)) hnodup
  mem_iff name := by
    rw [(List.mergeSort_perm _ _).mem_iff, List.mem_filter, Directory.mem_names_iff,
      looksOverlay_iff]

theorem shows_find (directory : Directory) :
    Shows directory.IsFound directory.IsListed (find directory) := by
  unfold find
  have hsimilar := areSimilar_mergeSort directory
  split
  next name hfound => exact .candidate (preferred_iff.1 hfound)
  next hnone =>
    have hlacks := lacksCandidates_iff.1 hnone
    split
    next hnil =>
      rw [hnil] at hsimilar
      exact .nothing hlacks fun name hname hresembles ↦
        List.not_mem_nil ((hsimilar.mem_iff name).2 ⟨hname, hresembles⟩)
    next hsome => exact .similar hlacks hsome hsimilar

theorem find_of_shows {finding : Finding}
    (hshows : Shows directory.IsFound directory.IsListed finding) : find directory = finding := by
  have hsimilar := areSimilar_mergeSort directory
  unfold find
  cases hshows with
  | candidate hpreferred => rw [preferred_iff.2 hpreferred]
  | similar hlacks hsome hnames =>
    rw [lacksCandidates_iff.2 hlacks, hsimilar.unique hnames]
    obtain ⟨first, names, rfl⟩ := List.exists_cons_of_ne_nil hsome
    rfl
  | nothing hlacks hnone =>
    have hnil : AreSimilar directory.IsListed [] :=
      ⟨.nil, fun name ↦ iff_of_false List.not_mem_nil fun hname ↦ hnone name hname.1 hname.2⟩
    rw [lacksCandidates_iff.2 hlacks, hsimilar.unique hnil]

theorem find_eq_iff {finding : Finding} :
    find directory = finding ↔ Shows directory.IsFound directory.IsListed finding :=
  ⟨fun hfind ↦ hfind ▸ shows_find directory, find_of_shows⟩

/-- The order in which a directory is listed makes no difference. -/
theorem find_of_perm {other : Directory} (h : other.entries.Perm directory.entries)
    (hopens : other.opens = directory.opens) : find other = find directory := by
  refine find_of_shows ?_
  rw [Directory.isFound_of_perm h, Directory.isListed_of_perm h hopens]
  exact shows_find directory

/-- Without entries there is nothing to be found. -/
theorem find_of_entries_nil (h : directory.entries = []) : find directory = .nothing := by
  refine find_of_shows (.nothing ?_ ?_)
  · simp [LacksCandidates, Directory.IsFound, h]
  · simp [Directory.IsListed, h]

end Directories

/-! ### Missing directories -/

/-- A directory that a tree does not have is without entries. -/
theorem entries_of_missing {tree : FileTree} {path : String}
    (hmissing : tree.isDirectory (Path.steps path) = false) :
    (tree.directory path).entries = [] := by
  simp only [FileTree.isDirectory, Bool.or_eq_false_iff, List.any_eq_false, Bool.and_eq_true,
    decide_eq_true_eq, not_and, not_not] at hmissing
  obtain ⟨⟨-, hdirectories⟩, hfiles⟩ := hmissing
  have hbelow : ∀ steps ∈ tree.files.map Prod.fst ++ tree.directories,
      (Path.steps path).isPrefixOf steps = true → steps = Path.steps path := by
    intro steps hmem hprefix
    rcases List.mem_append.1 hmem with hfile | hdirectory
    · obtain ⟨file, hlisted, rfl⟩ := List.mem_map.1 hfile
      exact hfiles file hlisted hprefix
    · exact absurd hprefix (hdirectories steps hdirectory)
  have hnone : (tree.files.map Prod.fst ++ tree.directories).filterMap (fun steps ↦
      if (Path.steps path).isPrefixOf steps then (steps.drop (Path.steps path).length).head?
      else none) = [] := by
    refine List.filterMap_eq_nil_iff.2 fun steps hmem ↦ ?_
    split
    next hprefix => rw [hbelow steps hmem hprefix, List.drop_length, List.head?_nil]
    next => rfl
  have hnil : tree.list path = [] := by
    rw [FileTree.list, hnone]
    rfl
  exact List.map_eq_nil_iff.2 hnil

/-! ### The status -/

section Members

variable {finding : Finding} {value : Json.Value}

theorem lookup_running : finding.members.lookup "running" = some (.bool finding.isRunning) := by
  cases finding <;> rfl

theorem lookup_message : finding.members.lookup "message" = some (.string finding.message) := by
  cases finding <;> rfl

theorem strings_injective {names others : List String}
    (h : Json.Value.strings names = .strings others) : names = others :=
  (List.map_injective_iff.2 fun _ _ ↦ Json.Value.string.inj) (Json.Value.array.inj h)

/-- A member is there if and only if something holds of which it is the value. -/
theorem isSome_iff_of_eq_some_iff {α : Type} {member : Option Json.Value} {holds : α → Prop}
    {valueOf : α → Json.Value}
    (h : ∀ value, member = some value ↔ ∃ a, holds a ∧ value = valueOf a) :
    member.isSome = true ↔ ∃ a, holds a := by
  rw [Option.isSome_iff_exists]
  constructor
  · rintro ⟨value, hvalue⟩
    obtain ⟨a, ha, -⟩ := (h value).1 hvalue
    exact ⟨a, ha⟩
  · rintro ⟨a, ha⟩
    exact ⟨valueOf a, (h _).2 ⟨a, ha, rfl⟩⟩

theorem eq_nothing_of_isRunning (h : finding.isRunning = false) : finding = .nothing := by
  cases finding with
  | nothing => rfl
  | candidate name => cases h
  | similar names => cases h

theorem lookup_interface : finding.members.lookup "interface" =
    match finding with
    | .candidate name => some (.string name)
    | .nothing | .similar _ => none := by
  cases finding <;> rfl

theorem lookup_interface_eq_some_iff :
    finding.members.lookup "interface" = some value ↔
      ∃ name, finding = .candidate name ∧ value = .string name := by
  rw [lookup_interface]
  cases finding <;> simp [eq_comm]

theorem lookup_interfaces : finding.members.lookup "interfaces" =
    match finding with
    | .similar names => some (.strings names)
    | .nothing | .candidate _ => none := by
  cases finding <;> rfl

theorem lookup_interfaces_eq_some_iff :
    finding.members.lookup "interfaces" = some value ↔
      ∃ names, finding = .similar names ∧ value = .strings names := by
  rw [lookup_interfaces]
  cases finding <;> simp [eq_comm]

end Members

section Status

variable {directory : Directory}

theorem find_eq_candidate_iff {name : String} :
    find directory = .candidate name ↔ IsPreferred directory.IsFound name := by
  rw [find_eq_iff]
  exact ⟨fun hshows ↦ by cases hshows; assumption, .candidate⟩

theorem find_eq_similar_iff {names : List String} :
    find directory = .similar names ↔
      LacksCandidates directory.IsFound ∧ names ≠ [] ∧ AreSimilar directory.IsListed names := by
  rw [find_eq_iff]
  constructor
  · rintro (_ | ⟨hlacks, hsome, hsimilar⟩ | _)
    exact ⟨hlacks, hsome, hsimilar⟩
  · rintro ⟨hlacks, hsome, hsimilar⟩
    exact .similar hlacks hsome hsimilar

theorem exists_preferred_iff :
    (∃ name, IsPreferred directory.IsFound name) ↔ ¬ LacksCandidates directory.IsFound := by
  rw [← lacksCandidates_iff, ← ne_eq, Option.ne_none_iff_exists']
  exact exists_congr fun name ↦ preferred_iff.symm

theorem exists_similar_iff :
    (∃ names, names ≠ [] ∧ AreSimilar directory.IsListed names) ↔
      ∃ name, directory.IsListed name ∧ Resembles name := by
  constructor
  · rintro ⟨names, hsome, hsimilar⟩
    obtain ⟨name, hname⟩ := List.exists_mem_of_ne_nil names hsome
    exact ⟨name, (hsimilar.mem_iff name).1 hname⟩
  · rintro ⟨name, hname⟩
    have hsimilar := areSimilar_mergeSort directory
    exact ⟨_, List.ne_nil_of_mem ((hsimilar.mem_iff name).2 hname), hsimilar⟩

/-- Something is running if and only if there is something to be reported. -/
theorem isRunning_find_iff :
    (find directory).isRunning = true ↔
      (∃ name ∈ ["wg0", "netmaker", "wg1", "wg2"], directory.IsFound name) ∨
        ∃ name, directory.IsListed name ∧ Resembles name := by
  have hshows := shows_find directory
  generalize find directory = finding at hshows
  cases hshows with
  | candidate hpreferred =>
    obtain ⟨hfound, before, after, hwellKnown, _⟩ := hpreferred
    exact iff_of_true rfl (Or.inl ⟨_, by simp [hwellKnown], hfound⟩)
  | similar hlacks hsome hsimilar =>
    exact iff_of_true rfl (Or.inr (exists_similar_iff.1 ⟨_, hsome, hsimilar⟩))
  | nothing hlacks hnone =>
    refine iff_of_false Bool.false_ne_true ?_
    rintro (⟨name, hwellKnown, hfound⟩ | ⟨name, hlisted, hresembles⟩)
    · exact hlacks name hwellKnown hfound
    · exact hnone name hlisted hresembles

end Status

/-- The status is that of a running overlay if and only if something is found under the name of a
well-known interface, or a listing comes to a name that starts like one of the overlay. It names one
interface if and only if something is found under a well-known name, and then the first of these; it
names several if and only if that is not so but some listed name has such a beginning, and then all
of them, each once and in order. The message names the same. There are never both, and neither if
nothing is running, as in a directory that is missing. The order of the entries makes no
difference. -/
theorem status_shows_directory (directory : Directory) :
    let status := (find directory).members
    (∃ running, status.lookup "running" = some (.bool running) ∧
      (running = true ↔
        (∃ name ∈ ["wg0", "netmaker", "wg1", "wg2"], directory.IsFound name) ∨
          ∃ name, directory.IsListed name ∧ Resembles name) ∧
      (running = false →
        status.lookup "interface" = none ∧ status.lookup "interfaces" = none ∧
          status.lookup "message" = some (.string "Checking for WireGuard interfaces"))) ∧
    (∀ value, status.lookup "interface" = some value ↔
      ∃ name, IsPreferred directory.IsFound name ∧ value = .string name) ∧
    ((status.lookup "interface").isSome ↔ ¬ LacksCandidates directory.IsFound) ∧
    (∀ value, status.lookup "interfaces" = some value ↔
      LacksCandidates directory.IsFound ∧
        ∃ names, names ≠ [] ∧ AreSimilar directory.IsListed names ∧ value = .strings names) ∧
    ((status.lookup "interfaces").isSome ↔
      LacksCandidates directory.IsFound ∧ ∃ name, directory.IsListed name ∧ Resembles name) ∧
    (∀ name, status.lookup "interface" = some (.string name) →
      status.lookup "message" =
        some (.string ("WireGuard interface " ++ name ++ " detected"))) ∧
    (∀ names, status.lookup "interfaces" = some (.strings names) →
      status.lookup "message" =
        some (.string ("Found WireGuard interfaces: " ++ ", ".intercalate names))) ∧
    (status.lookup "interface" = none ∨ status.lookup "interfaces" = none) ∧
    (∀ other : Directory, other.entries.Perm directory.entries →
      other.opens = directory.opens → (find other).members = status) ∧
    ∀ (tree : FileTree) path, tree.isDirectory (Path.steps path) = false →
      (find (tree.directory path)).members = Finding.nothing.members := by
  intro status
  have hinterface (value : Json.Value) : status.lookup "interface" = some value ↔
      ∃ name, IsPreferred directory.IsFound name ∧ value = .string name :=
    lookup_interface_eq_some_iff.trans
      (exists_congr fun _ ↦ and_congr_left fun _ ↦ find_eq_candidate_iff)
  have hinterfaces (value : Json.Value) : status.lookup "interfaces" = some value ↔
      ∃ names, (LacksCandidates directory.IsFound ∧ names ≠ [] ∧
        AreSimilar directory.IsListed names) ∧ value = .strings names :=
    lookup_interfaces_eq_some_iff.trans
      (exists_congr fun _ ↦ and_congr_left fun _ ↦ find_eq_similar_iff)
  refine ⟨⟨_, lookup_running, isRunning_find_iff, fun hidle ↦ ?idle⟩, hinterface,
    (isSome_iff_of_eq_some_iff hinterface).trans exists_preferred_iff, fun value ↦ ?interfaces,
    (isSome_iff_of_eq_some_iff hinterfaces).trans ?someInterfaces, fun name hname ↦ ?message,
    fun names hnames ↦ ?messages, ?one, fun other hperm hopens ↦ by rw [find_of_perm hperm hopens],
    fun tree path hmissing ↦ by rw [find_of_entries_nil (entries_of_missing hmissing)]⟩
  case idle =>
    have hnothing := eq_nothing_of_isRunning hidle
    simp only [status, hnothing]
    exact ⟨rfl, rfl, rfl⟩
  case interfaces =>
    rw [hinterfaces]
    simp only [and_assoc, exists_and_left]
  case someInterfaces => rw [exists_and_left, exists_similar_iff]
  case message =>
    obtain ⟨other, hfound, hsame⟩ := lookup_interface_eq_some_iff.1 hname
    cases hsame
    simp only [status, lookup_message, hfound]
    rfl
  case messages =>
    obtain ⟨others, hfound, hsame⟩ := lookup_interfaces_eq_some_iff.1 hnames
    rw [strings_injective hsame]
    simp only [status, lookup_message, hfound]
    rfl
  case one =>
    simp only [status, lookup_interface, lookup_interfaces]
    cases find directory <;> simp

/-- Two interfaces with usual beginnings beside another one, a well-known name that leads nowhere
and a name that is no text. -/
def meshed : Directory where
  entries := [{ name := Text.utf8 "wg-overlay" }, { name := Text.utf8 "netmaker", leads := false },
    { name := Text.utf8 "eth0" }, { name := [0x77, 0x67, 0xFF] }, { name := Text.utf8 "nm-mesh" }]

/-- Only the two interfaces are reported, in order, also if the entries are read backwards. -/
theorem status_shows_directory_sample :
    let backwards : Directory := { meshed with
      entries := meshed.entries.reverse
      nodup := by decide }
    (find meshed).members.lookup "running" = some (.bool true) ∧
      (find meshed).members.lookup "interface" = none ∧
      (find meshed).members.lookup "interfaces" =
        some (.strings ["nm-mesh", "wg-overlay"]) ∧
      (find meshed).members.lookup "message" =
        some (.string "Found WireGuard interfaces: nm-mesh, wg-overlay") ∧
      (find backwards).members = (find meshed).members := by
  intro backwards
  have hnames : meshed.names = ["wg-overlay", "netmaker", "eth0", "nm-mesh"] := by decide
  have hlacks : LacksCandidates meshed.IsFound := by
    intro name hname hfound
    rw [← Directory.holds_iff] at hfound
    revert name
    decide
  have hsimilar : AreSimilar meshed.IsListed ["nm-mesh", "wg-overlay"] := by
    refine ⟨by decide, fun name ↦ ?_⟩
    rw [← looksOverlay_iff, ← Directory.mem_names_iff, hnames]
    simp only [List.mem_cons, List.not_mem_nil, or_false]
    constructor
    · rintro (rfl | rfl) <;> decide
    · rintro ⟨rfl | rfl | rfl | rfl, hlooks⟩
      · decide
      · exact absurd hlooks (by decide)
      · exact absurd hlooks (by decide)
      · decide
  obtain ⟨⟨running, hrunning, hruns, -⟩, -, hinterface, hinterfaces, -, -, hmessages, -, hlisting,
    -⟩ := status_shows_directory meshed
  have hfound := (hinterfaces _).2 ⟨hlacks, _, by simp, hsimilar, rfl⟩
  have hyes : running = true := hruns.2 (Or.inr ⟨"nm-mesh", (hsimilar.mem_iff _).1 (by simp)⟩)
  rw [hyes] at hrunning
  refine ⟨hrunning, ?_, hfound, hmessages _ hfound, hlisting backwards (List.reverse_perm _) rfl⟩
  exact Option.not_isSome_iff_eq_none.1 fun hsome ↦ hinterface.1 hsome hlacks

/-- A link that leads nowhere, under a well-known name. -/
def dangling : Directory where
  entries := [{ name := Text.utf8 "netmaker", leads := false }]

/-- A name with a usual beginning that is no text. -/
def garbled : Directory where
  entries := [{ name := [0x77, 0x67, 0xFF] }]

/-- An interface in a directory that cannot be listed. -/
def unlisted : Directory where
  entries := [{ name := Text.utf8 "nm-mesh" }]
  opens := false

/-- An entry with the name of an overlay interface, or with a name that starts like one, need not be
reported. -/
theorem entries_unreported :
    ((∃ entry ∈ dangling.entries, entry.name = Text.utf8 "netmaker") ∧
      (find dangling).members.lookup "running" = some (.bool false)) ∧
    ((∃ entry ∈ garbled.entries, ∃ rest, entry.name = Text.utf8 "wg" ++ rest) ∧
      (find garbled).members.lookup "running" = some (.bool false)) ∧
    (∃ entry ∈ unlisted.entries, ∃ rest, entry.name = Text.utf8 "nm-" ++ rest) ∧
      (find unlisted).members.lookup "running" = some (.bool false) := by
  have hnothing {directory : Directory} (hfound : candidates.find? directory.holds = none)
      (hlisted : directory.names.filter looksOverlay = []) :
      (find directory).members.lookup "running" = some (.bool false) := by
    rw [lookup_running, find, hfound, hlisted, List.mergeSort_nil]
    rfl
  exact ⟨⟨⟨_, List.mem_singleton_self _, rfl⟩, hnothing (by decide) (by decide)⟩,
    ⟨⟨_, List.mem_singleton_self _, [0xFF], by decide⟩, hnothing (by decide) (by decide)⟩,
    ⟨_, List.mem_singleton_self _, Text.utf8 "mesh", by decide⟩,
    hnothing (by decide) (by decide)⟩

end Probe

end OverlayGateway
