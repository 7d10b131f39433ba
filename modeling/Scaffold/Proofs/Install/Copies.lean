import Mathlib
import Scaffold.Proofs.Install.Preparation

/-!
# Files that are copied

A file that has no variables is read as a text, filled in with nothing and written as a text again,
with its line breaks and its byte order mark. A file whose bytes are no text is not filled in at all,
even if its name is. Either way what is rendered and written are the bytes that have been read, since
a text has one UTF-8 form.
-/

namespace Scaffold

/-- Bytes are read as the text whose UTF-8 form they are. -/
theorem fromUTF8?_eq_some_iff {bytes : ByteArray} {text : String} :
    String.fromUTF8? bytes = some text ↔ text.toUTF8 = bytes := by
  constructor
  · intro h
    obtain ⟨hvalid, heq⟩ := Option.dite_none_right_eq_some.1 h
    cases heq
    rfl
  · rintro rfl
    exact dif_pos text.isValidUTF8

/-- Where there are no variables nothing is filled in. -/
theorem Placeholder.fill_nil (w : Wrapper) (values : String → Option String) (text : String) :
    fill w values [] text = .ok text :=
  congrArg Except.ok String.ofList_toList

namespace Blueprint

open Progress (writeItem)

variable {b : Blueprint} {values : String → Option String} {names : List String} {file : String}
  {bytes : ByteArray}

/-- A file with these variables and bytes is copied: it has no variables, or the bytes are no
text. -/
def IsCopied (names : List String) (bytes : ByteArray) : Prop :=
  names = [] ∨ ¬bytes.IsValidUTF8

/-- A file that is copied is rendered to its bytes. It cannot be rendered only if it is a text and
has no wrapper. -/
theorem renderContent_of_isCopied (h : IsCopied names bytes) :
    (∃ content, (b.renderContent values names file bytes).outcome = .ok content ∧
        content.toBytes = bytes) ∨
      bytes.IsValidUTF8 ∧ ∃ e, b.config.wrappers.forContent file = .error e ∧
        (b.renderContent values names file bytes).outcome = .error (.wrapper e) := by
  unfold renderContent
  split
  · exact .inl ⟨.bytes bytes, rfl, rfl⟩
  · next text htext =>
    have hbytes := fromUTF8?_eq_some_iff.1 htext
    have hvalid : bytes.IsValidUTF8 := hbytes ▸ text.isValidUTF8
    -- the bytes are a text, so it is copied for having no variables
    obtain rfl := h.resolve_right (not_not_intro hvalid)
    split
    · next e hwrapper => exact .inr ⟨hvalid, e, hwrapper, rfl⟩
    · next w hwrapper =>
      rw [Placeholder.fill_nil]
      exact .inl ⟨.text text, rfl, hbytes⟩

/-- What has been written can be read. -/
theorem readFile_of_writeItem {before after : FileTree} {item : RenderedFile}
    (h : writeItem before item = (after, .ok ())) :
    ∃ executable, after.readFile item.target = .ok (item.content.toBytes, executable) := by
  obtain ⟨executable, hfile⟩ := (Progress.wrote_of_writeItem h).file
  exact ⟨executable, FileTree.readFile_eq_ok_iff.2 hfile⟩

/-- A file that has no variables or whose bytes are no text is rendered to the bytes that it has,
unless it is a text without a wrapper. When the selected files have been rendered, each that is to be
copied has been rendered to the bytes of its source, and where it is written these bytes are found,
whatever else has been written before. -/
theorem render_copies (b : Blueprint) :
    (∀ values names file bytes, IsCopied names bytes →
      (bytes.IsValidUTF8 → ∃ w, b.config.wrappers.forContent file = .ok w) →
      ∃ content, (b.renderContent values names file bytes).outcome = .ok content ∧
        content.toBytes = bytes) ∧
    ∀ tree selected values destination items,
      (b.render tree selected values destination).outcome = .ok items →
      List.Forall₂ (fun file item ↦ ∃ bytes executable,
          tree.readFile (b.sourceOf file.1) = .ok (bytes, executable) ∧
          (IsCopied file.2 bytes → item.content.toBytes = bytes ∧
            ∀ before after, writeItem before item = (after, .ok ()) →
              ∃ executable', after.readFile item.target = .ok (bytes, executable')))
        (b.selection selected) items := by
  constructor
  · intro values names file bytes hcopied hwrapper
    rcases renderContent_of_isCopied hcopied with hcontent | ⟨hvalid, e, hnone, -⟩
    · exact hcontent
    · obtain ⟨w, hw⟩ := hwrapper hvalid
      cases hnone.symm.trans hw
  · intro tree selected values destination items h
    obtain ⟨nameWrapper, hfiles⟩ := forall₂_render h
    refine hfiles.imp fun file item hfile ↦ ?_
    obtain ⟨name, place, bytes, executable, content, -, -, hread, hcontent, rfl⟩ :=
      outcome_renderFile_eq_ok_iff.1 hfile
    refine ⟨bytes, executable, hread, fun hcopied ↦ ?_⟩
    have hbytes : content.toBytes = bytes := by
      rcases renderContent_of_isCopied hcopied with ⟨content', hcontent', hbytes⟩ | ⟨-, e, -, he⟩
      · cases hcontent.symm.trans hcontent'
        exact hbytes
      · cases hcontent.symm.trans he
    refine ⟨hbytes, fun before after hwrite ↦ ?_⟩
    obtain ⟨executable', hread'⟩ := readFile_of_writeItem hwrite
    exact ⟨executable', hbytes ▸ hread'⟩

/-! ## Two scans

A text with a byte order mark and foreign line breaks, and bytes that are no text under a name with a
variable in it.
-/

/-- The bytes that are no text. -/
def noise : ByteArray := ⟨#[0x5F, 0xFF, 0x0D, 0x0A]⟩

/-- The files, in their directory. -/
def scansTree : FileTree :=
  .directory [("scans", .directory [("___page___", .file noise false),
    ("notes", .file "\uFEFFone\r\ntwo\r".toUTF8 true)])]

/-- The two files as a blueprint. -/
def scans : Blueprint :=
  ⟨⟨["scans"]⟩, false, ["___page___", "notes"], .empty, ⟨["page"], [(0, ["page"])]⟩⟩

/-- The two files rendered with a value for the name of the first. -/
def scansRendered : List RenderedFile :=
  [⟨⟨["scans", "___page___"]⟩, ⟨["out", "one"]⟩, .bytes noise⟩,
    ⟨⟨["scans", "notes"]⟩, ⟨["out", "notes"]⟩, .text "\uFEFFone\r\ntwo\r"⟩]

theorem render_copies_scans :
    (scans.render scansTree scans.files ([("page", "one")].lookup ·) ⟨["out"]⟩).outcome =
      .ok scansRendered ∧
    ∀ before after, writeItem before ⟨⟨["scans", "___page___"]⟩, ⟨["out", "one"]⟩, .bytes noise⟩ =
      (after, .ok ()) → ∃ executable, after.readFile ⟨["out", "one"]⟩ = .ok (noise, executable) := by
  have hrender : (scans.render scansTree scans.files ([("page", "one")].lookup ·)
      ⟨["out"]⟩).outcome = .ok scansRendered := rfl
  have hinvalid : ¬noise.IsValidUTF8 := by decide +kernel
  obtain ⟨hpage, -⟩ := List.forall₂_cons.1 ((render_copies scans).2 _ _ _ _ _ hrender)
  obtain ⟨bytes, executable, hread, hcopy⟩ := hpage
  cases hread
  exact ⟨hrender, (hcopy (.inr hinvalid)).2⟩

end Blueprint

end Scaffold
