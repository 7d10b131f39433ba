import Mathlib
import Scaffold.Install.Basic
import Scaffold.Proofs.Dependency.Order
import Scaffold.Proofs.FileTree.Frame
import Scaffold.Proofs.Resolution.Result
import Scaffold.Proofs.Traced

/-!
# What an installation leaves as it is

Without overwriting, an installation changes no file that was there before and takes nothing away,
however it ends. Each step of the writing keeps the tree that it finds, so the whole of it does.
When it comes to its end, each selected file has had its turn once, and has been written if its
place was free then and left alone if not.
-/

namespace Scaffold

open FileTree (Keeps KeepsAt)

namespace Progress

variable {mode : WriteMode} {p : Progress} {item : RenderedFile} {items : List RenderedFile}

/-! ## What is kept -/

theorem keeps_writeItem {tree : FileTree} {fault : FileFault}
    (h : tree.at? item.target.parts = .error fault) : Keeps tree (writeItem tree item).1 := by
  have hdirectories := tree.keeps_makeDirectories [] item.target.parent.parts
  intro names
  -- there was nothing at the target, so that nothing has to be kept there
  by_cases hne : names = item.target.parts
  · exact .of_error (hne ▸ h)
  unfold writeItem
  split
  · next made fault hmade =>
    rw [hmade] at hdirectories
    exact hdirectories names
  · next made hmade =>
    rw [hmade] at hdirectories
    split
    · exact hdirectories names
    · next written hwritten =>
      have hkeep := (hdirectories names).trans (FileTree.keepsAt_writeFile hwritten hne)
      split
      · exact hkeep
      · exact hkeep.trans (FileTree.keepsAt_setExecutable hne)

theorem keeps_step (hforce : mode.force = false) : Keeps p.tree (p.step mode item).1.tree := by
  unfold step
  split
  · exact .refl _
  · next there hthere =>
    cases there with
    | true =>
      rw [hforce]
      exact .refl _
    | false =>
      obtain ⟨fault, hfault⟩ := FileTree.exists_fault_of_occupied hthere
      have hkeep := keeps_writeItem hfault
      rw [Bool.false_and, if_neg Bool.false_ne_true]
      split
      · exact .refl _
      · split
        · next hwrite => rwa [hwrite] at hkeep
        · next hwrite => rwa [hwrite] at hkeep

theorem keeps_run (hforce : mode.force = false) : Keeps p.tree (p.run mode items).1.tree := by
  induction items generalizing p with
  | nil => exact .refl _
  | cons item items ih =>
    have hstep : Keeps p.tree (p.step mode item).1.tree := keeps_step hforce
    rw [run]
    split
    · next q hq =>
      rw [hq] at hstep
      exact hstep.trans ih
    · next q fault hq => rwa [hq] at hstep

/-! ## Turns -/

/-- The rendered files, each with the tree that it finds when its turn comes. -/
def turns (mode : WriteMode) : Progress → List RenderedFile → List (RenderedFile × FileTree)
  | _, [] => []
  | p, item :: rest => (item, p.tree) :: turns mode (p.step mode item).1 rest

/-- The place of a rendered file is free when its turn comes. -/
def isFree (turn : RenderedFile × FileTree) : Bool :=
  turn.2.occupied turn.1.target = .ok false

theorem map_fst_turns (mode : WriteMode) (p : Progress) (items : List RenderedFile) :
    (turns mode p items).map Prod.fst = items := by
  induction items generalizing p with
  | nil => rfl
  | cons item items ih => rw [turns, List.map_cons, ih]

/-- A step that comes to its end writes a file to a free place and leaves one at any other place
alone. -/
theorem written_step (hforce : mode.force = false) (h : (p.step mode item).2 = .ok ()) :
    (p.step mode item).1.written =
        p.written ++ (if isFree (item, p.tree) then [item.target] else []) ∧
      (p.step mode item).1.skipped =
        p.skipped ++ (if isFree (item, p.tree) then [] else [item.target]) := by
  cases hthere : p.tree.occupied item.target with
  | error fault =>
    simp only [step, hthere] at h
    cases h
  | ok there =>
    cases there with
    | true => simp [step, isFree, hthere, hforce]
    | false =>
      simp only [step, hthere, Bool.false_and, Bool.false_eq_true, if_false] at h ⊢
      by_cases hrehearsal : mode.rehearsal = true
      · simp [isFree, hthere, hrehearsal]
      · rw [if_neg hrehearsal] at h ⊢
        split at h
        · simp [isFree, hthere]
        · cases h

/-- When the writing comes to its end, the files that have been written are those whose place was
free when their turn came, and the others have been left alone. -/
theorem written_run (hforce : mode.force = false) (h : (p.run mode items).2 = .ok ()) :
    (p.run mode items).1.written =
        p.written ++ ((turns mode p items).filter isFree).map (·.1.target) ∧
      (p.run mode items).1.skipped =
        p.skipped ++ ((turns mode p items).filter (!isFree ·)).map (·.1.target) := by
  induction items generalizing p with
  | nil => simp [run, turns]
  | cons item items ih =>
    rw [run] at h ⊢
    rcases hstep : p.step mode item with ⟨q, fault | _⟩
    · rw [hstep] at h
      cases h
    · rw [hstep] at h
      have hq : (p.step mode item).1 = q := congrArg Prod.fst hstep
      obtain ⟨hwritten, hskipped⟩ := written_step hforce (congrArg Prod.snd hstep)
      obtain ⟨ihwritten, ihskipped⟩ := ih h
      rw [hq] at hwritten hskipped
      rw [ihwritten, ihskipped, hwritten, hskipped, turns, hq, List.filter_cons, List.filter_cons]
      by_cases hfree : isFree (item, p.tree) = true <;> simp [hfree]

end Progress

namespace Blueprint

variable {b : Blueprint} {tree : FileTree} {destination : Path} {values : String → Option String}

/-! ## Whole installations -/

/-- The place of a file of a blueprint. -/
def sourceOf (b : Blueprint) (file : String) : Path := ⟨b.root.parts ++ Path.names file⟩

/-- A file can be rendered if its variables have values, its name does not lead out of the
destination, it can be read and its content can be rendered. -/
theorem outcome_renderFile_eq_ok_iff {nameWrapper : Wrapper} {file : String} {names : List String}
    {item : RenderedFile} :
    (b.renderFile tree values destination nameWrapper file names).outcome = .ok item ↔
      ∃ name place bytes executable content,
        Placeholder.fill nameWrapper values names file = .ok name ∧
        target destination name = .ok place ∧
        tree.readFile (b.sourceOf file) = .ok (bytes, executable) ∧
        (b.renderContent values names file bytes).outcome = .ok content ∧
        item = ⟨b.sourceOf file, place, content⟩ := by
  constructor
  · intro h
    unfold renderFile at h
    split at h
    · cases h
    · next name hname =>
      split at h
      · cases h
      · next place hplace =>
        simp only at h
        split at h
        · cases h
        · next bytes executable hread =>
          obtain ⟨content, hcontent, h⟩ := Traced.outcome_bind_eq_ok_iff.1 h
          cases h
          exact ⟨name, place, bytes, executable, content, hname, hplace, hread, hcontent, rfl⟩
  · rintro ⟨name, place, bytes, executable, content, hname, hplace, hread, hcontent, rfl⟩
    rw [sourceOf] at hread ⊢
    simp only [renderFile, hname, hplace, hread]
    exact Traced.outcome_bind_eq_ok_iff.2 ⟨content, hcontent, rfl⟩

theorem source_of_renderFile {nameWrapper : Wrapper} {file : String} {names : List String}
    {item : RenderedFile}
    (h : (b.renderFile tree values destination nameWrapper file names).outcome = .ok item) :
    item.source = b.sourceOf file := by
  obtain ⟨_, _, _, _, _, -, -, -, -, rfl⟩ := outcome_renderFile_eq_ok_iff.1 h
  rfl

/-- When some files have been rendered, each of them has been. -/
theorem forall₂_renderAll {nameWrapper : Wrapper} {selection : List (String × List String)}
    {items : List RenderedFile}
    (h : (b.renderAll tree values destination nameWrapper selection).outcome = .ok items) :
    List.Forall₂ (fun file item ↦
      (b.renderFile tree values destination nameWrapper file.1 file.2).outcome = .ok item)
      selection items := by
  induction selection generalizing items with
  | nil =>
    cases h
    exact .nil
  | cons file selection ih =>
    obtain ⟨item, hitem, h⟩ := Traced.outcome_bind_eq_ok_iff.1 h
    obtain ⟨rest, hrest, h⟩ := Traced.outcome_bind_eq_ok_iff.1 h
    cases h
    exact .cons hitem (ih hrest)

/-- Each of the selected files is rendered, in the order of the blueprint. -/
theorem forall₂_render {selected : List String} {items : List RenderedFile}
    (h : (b.render tree selected values destination).outcome = .ok items) :
    ∃ nameWrapper, List.Forall₂ (fun file item ↦
      (b.renderFile tree values destination nameWrapper file.1 file.2).outcome = .ok item)
      (b.selection selected) items := by
  unfold render at h
  split at h
  · cases h
  · next nameWrapper _ => exact ⟨nameWrapper, forall₂_renderAll h⟩

/-- Each selected file is rendered once, in the order of the blueprint. -/
theorem map_source_of_render {selected : List String} {items : List RenderedFile}
    (h : (b.render tree selected values destination).outcome = .ok items) :
    items.map (·.source) = (b.selection selected).map (b.sourceOf ·.1) := by
  obtain ⟨nameWrapper, hfiles⟩ := forall₂_render h
  clear h
  generalize b.selection selected = selection at hfiles ⊢
  induction hfiles with
  | nil => rfl
  | cons hfile _ ih => rw [List.map_cons, List.map_cons, source_of_renderFile hfile, ih]

theorem keeps_installWith {mode : WriteMode} {selected : List String} {c : Conversation}
    {r : List (String × String)} (hforce : mode.force = false) :
    Keeps tree (b.installWith mode tree destination selected c r).tree := by
  unfold installWith
  simp only
  split
  · exact .refl tree
  · exact Progress.keeps_run (p := .start tree) hforce

theorem install_of_yields {request : InstallRequest} {prompter : Prompter} {base : Path}
    {selected : List String} {r : List (String × String)} {c c' : Conversation}
    (hdestination : destinationOf tree base request.destination = .ok destination)
    (hselected : b.select request.pick = .ok selected)
    (hresolve : Resolution.Yields (Resolution.resolve prompter b.catalogue request.supplied b.files
      selected b.config.table) c r c') :
    b.install request prompter tree base c =
      b.installWith request.mode tree destination selected c' r := by
  rw [install, hdestination]
  simp only [hselected]
  rw [hresolve]

theorem keeps_install {request : InstallRequest} {prompter : Prompter} {base : Path}
    {c : Conversation} (hforce : request.mode.force = false) :
    Keeps tree (b.install request prompter tree base c).tree := by
  unfold install
  split
  · exact .refl tree
  · split
    · exact .refl tree
    · split
      · exact .refl tree
      · exact keeps_installWith hforce

/-- Each of the selected files has had its turn, in the order of the blueprint, and what has been
written and what has been left alone is told by whether its place was free then. -/
def Accounts (b : Blueprint) (request : InstallRequest) (tree : FileTree) (base : Path)
    (result : InstallResult) : Prop :=
  ∃ selected destination items,
    b.select request.pick = .ok selected ∧
    destinationOf tree base request.destination = .ok destination ∧
    (b.render tree selected (result.values.lookup ·) destination).outcome = .ok items ∧
    items.map (·.source) = (b.selection selected).map (b.sourceOf ·.1) ∧
    (Progress.turns request.mode (.start tree) items).map Prod.fst = items ∧
    result.written = ((Progress.turns request.mode (.start tree) items).filter
      Progress.isFree).map (·.1.target) ∧
    result.skipped = ((Progress.turns request.mode (.start tree) items).filter
      (!Progress.isFree ·)).map (·.1.target)

theorem accounts_of_install {request : InstallRequest} {prompter : Prompter} {base : Path}
    {c : Conversation} {result : InstallResult} (hforce : request.mode.force = false)
    (h : (b.install request prompter tree base c).outcome = .ok result) :
    b.Accounts request tree base result := by
  unfold install at h
  split at h
  · cases h
  · next destination hdestination =>
    split at h
    · cases h
    · next selected hselected =>
      split at h
      · cases h
      · unfold installWith at h
        simp only at h
        split at h
        · cases h
        · next items hrender =>
          obtain ⟨_, hrun, rfl⟩ := Except.map_eq_ok_iff.1 (Except.mapError_eq_ok_iff.1 h)
          obtain ⟨hwritten, hskipped⟩ := Progress.written_run hforce hrun
          exact ⟨selected, destination, items, hselected, hdestination, hrender,
            map_source_of_render hrender, Progress.map_fst_turns _ _ _, hwritten, hskipped⟩

/-- Without overwriting, whatever its outcome, an installation keeps all files and directories. When
it comes to its end, every selected file has been written or left alone. -/
theorem install_keeps (b : Blueprint) (request : InstallRequest) (prompter : Prompter)
    (tree : FileTree) (base : Path) (c : Conversation) (hforce : request.mode.force = false) :
    Keeps tree (b.install request prompter tree base c).tree ∧
      ∀ result, (b.install request prompter tree base c).outcome = .ok result →
        b.Accounts request tree base result :=
  ⟨keeps_install hforce, fun _ h ↦ accounts_of_install hforce h⟩

/-- Two letters, the first of which has been sent before. -/
def lettersTree : FileTree :=
  .directory [("letters", .directory [("one", .file "new".toUTF8 false),
    ("two", .file "new".toUTF8 true)]), ("sent", .directory [("one", .file "old".toUTF8 false)])]

/-- The letters as a blueprint. -/
def letters : Blueprint := ⟨⟨["letters"]⟩, false, ["one", "two"], .empty, .empty⟩

theorem install_letters :
    (letters.install ⟨"sent", fun _ ↦ none, none, ⟨false, false⟩⟩ .nobody lettersTree ⟨[]⟩
        (.start [])).outcome =
      .ok ⟨[], [⟨["sent", "two"]⟩], [⟨["sent", "one"]⟩]⟩ := by
  have hresolve : Resolution.Yields (Resolution.resolve .nobody .empty (fun _ ↦ none)
      ["one", "two"] ["one", "two"] .empty) (.start []) [] (.start []) := by
    refine Resolution.yields_resolve_iff.2 ⟨.empty, .start [], rfl, ?_⟩
    rw [Resolution.computeRest, Table.solvingOrder, Dependency.order]
    have hnil : Resolution.unvalued .empty = [] := rfl
    rw [hnil, Dependency.orderPending_nil]
    rfl
  have hinstall : letters.install ⟨"sent", fun _ ↦ none, none, ⟨false, false⟩⟩ .nobody lettersTree
      ⟨[]⟩ (.start []) = letters.installWith ⟨false, false⟩ lettersTree ⟨["sent"]⟩ ["one", "two"]
        (.start []) [] :=
    install_of_yields rfl rfl hresolve
  rw [hinstall]
  rfl

theorem install_keeps_letters :
    (letters.install ⟨"sent", fun _ ↦ none, none, ⟨false, false⟩⟩ .nobody lettersTree ⟨[]⟩
        (.start [])).tree.at? ["sent", "one"] = .ok (.file "old".toUTF8 false) ∧
      letters.Accounts ⟨"sent", fun _ ↦ none, none, ⟨false, false⟩⟩ lettersTree ⟨[]⟩
        ⟨[], [⟨["sent", "two"]⟩], [⟨["sent", "one"]⟩]⟩ := by
  obtain ⟨hkeeps, haccounts⟩ := install_keeps letters ⟨"sent", fun _ ↦ none, none, ⟨false, false⟩⟩
    .nobody lettersTree ⟨[]⟩ (.start []) rfl
  exact ⟨(hkeeps ["sent", "one"]).file _ _ rfl, haccounts _ install_letters⟩

end Blueprint

end Scaffold
