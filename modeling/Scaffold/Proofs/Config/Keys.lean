import Mathlib
import Scaffold.Proofs.Config.Accepted
import Scaffold.Proofs.Placeholder.Name

/-!
# What the keys of a table name

A key of the table of transforms is checked as it is shown, but kept as it is. So a key that is a
text is a variable name, and a variable of that name finds its definition. A key that is no text is
accepted too if it is shown like a name. The values that are shown so are few: nothing, the truth
values, and of the numbers the one that is none and the positive infinity. Such a key names no
variable, and its definition is found by nobody.

All other values are shown with a first character that is no letter, bytes aside, whose quotes no
name holds.
-/

namespace Scaffold

/-! ## Texts that are no names -/

/-- The first character is no letter. -/
def StartsForeign (text : String) : Prop := ∃ c ∈ text.toList.head?, Text.isAsciiLetter c = false

theorem StartsForeign.append {text : String} (h : StartsForeign text) (rest : String) :
    StartsForeign (text ++ rest) := by
  obtain ⟨c, hc, hletter⟩ := h
  refine ⟨c, ?_, hletter⟩
  rw [String.toList_append, List.head?_append, Option.mem_def.1 hc, Option.some_or]
  rfl

theorem isAsciiLetter_of_isDigit {c : Char} (h : c.isDigit = true) :
    Text.isAsciiLetter c = false := by
  rw [Char.isDigit, Bool.and_eq_true, decide_eq_true_eq, decide_eq_true_eq] at h
  simp only [Text.isAsciiLetter, Text.isAsciiLower, Text.isAsciiUpper, Bool.or_eq_false_iff,
    Bool.and_eq_false_iff, decide_eq_false_iff_not, Char.le_def]
  have hdigit : c.val ≤ 57 := h.2
  refine ⟨.inl fun hle ↦ ?_, .inl fun hle ↦ ?_⟩
  · exact absurd (UInt32.le_trans hle hdigit) (by decide)
  · exact absurd (UInt32.le_trans hle hdigit) (by decide)

theorem startsForeign_repr (n : ℕ) : StartsForeign (toString n) := by
  have hlist : (toString n).toList = Nat.toDigits 10 n := Nat.toList_repr
  cases hdigits : Nat.toDigits 10 n with
  | nil => exact absurd hdigits Nat.toDigits_ne_nil
  | cons c digits =>
    refine ⟨c, by rw [hlist, hdigits]; rfl, isAsciiLetter_of_isDigit ?_⟩
    exact Nat.isDigit_of_mem_toDigits (by decide) (by decide) (hdigits ▸ List.mem_cons_self)

theorem startsForeign_int (n : ℤ) : StartsForeign (toString n) := by
  cases n with
  | ofNat n => exact startsForeign_repr n
  | negSucc n =>
    have hminus : StartsForeign "-" := ⟨'-', rfl, rfl⟩
    exact hminus.append _

/-- Any number of characters from the front of a text, but not none, start like the text. -/
theorem StartsForeign.take {text : String} (h : StartsForeign text) (n : ℕ) :
    StartsForeign (String.ofList (text.toList.take (n + 1))) := by
  obtain ⟨c, hc, hletter⟩ := h
  obtain ⟨rest, hrest⟩ := List.head?_eq_some_iff.1 hc
  exact ⟨c, by rw [String.toList_ofList, hrest]; rfl, hletter⟩

theorem startsForeign_text (d : Decimal.Scaled) : StartsForeign d.text := by
  have hdigits := startsForeign_repr d.digits
  have hzero : StartsForeign "0." := ⟨'0', rfl, rfl⟩
  unfold Decimal.Scaled.text
  simp only
  split
  · split
    · exact (hzero.append _).append _
    · split
      · exact (hdigits.append _).append _
      · exact ((hdigits.take _).append _).append _
  · refine StartsForeign.append ?_ _
    refine StartsForeign.append ?_ _
    refine StartsForeign.append ?_ _
    split
    · exact hdigits
    · exact ((hdigits.take 0).append _).append _

theorem startsForeign_padded (width n : ℕ) : StartsForeign (Document.padded width n) := by
  unfold Document.padded
  simp only
  cases width - (toString n).length with
  | zero => simpa using startsForeign_repr n
  | succ k =>
    have hzeros : StartsForeign (String.ofList (List.replicate (k + 1) '0')) :=
      ⟨'0', by rw [String.toList_ofList]; rfl, rfl⟩
    exact hzeros.append _

namespace VariableName

variable {name : String}

/-- A name is a letter followed by inner characters, a line break at its very end aside. -/
theorem exists_letter (h : fault? name = none) :
    ∃ c rest, name.toList = c :: rest ∧ Text.isAsciiLetter c = true ∧
      ∀ d ∈ rest, isInner d = true ∨ d = '\n' := by
  rcases isName_or_of_fault? h with hname | ⟨front, hfront, hstem⟩
  · obtain ⟨-, ⟨c, rest, hname, hletter, hrest⟩, -⟩ := isName_iff_isStem.1 hname
    exact ⟨c, rest, hname, hletter, fun d hd ↦ .inl (hrest d hd)⟩
  · obtain ⟨c, rest, rfl, hletter, hrest⟩ := hstem
    refine ⟨c, rest ++ ['\n'], hfront, hletter, fun d hd ↦ ?_⟩
    rcases List.mem_append.1 hd with hd | hd
    · exact .inl (hrest d hd)
    · exact .inr (List.mem_singleton.1 hd)

theorem not_startsForeign (h : fault? name = none) : ¬StartsForeign name := by
  rintro ⟨c, hc, hforeign⟩
  obtain ⟨d, rest, hname, hletter, -⟩ := exists_letter h
  rw [hname] at hc
  cases hc
  cases hforeign.symm.trans hletter

theorem not_mem_of_isInner {c : Char} (h : fault? name = none) (hc : isInner c = false)
    (hletter : Text.isAsciiLetter c = false) (hbreak : c ≠ '\n') : c ∉ name.toList := by
  intro hmem
  obtain ⟨d, rest, hname, hd, hrest⟩ := exists_letter h
  rw [hname] at hmem
  rcases List.mem_cons.1 hmem with rfl | hmem
  · cases hletter.symm.trans hd
  · rcases hrest c hmem with hinner | rfl
    · cases hc.symm.trans hinner
    · exact hbreak rfl

end VariableName

/-! ## Values that are shown like names -/

namespace Document.Value

/-- A value that is no text, but is shown like a name. -/
inductive IsDisguised : Value → Prop where
  /-- Nothing. -/
  | null : IsDisguised .null
  /-- A truth value. -/
  | truth (b : Bool) : IsDisguised (.truth b)
  /-- The number that is none. -/
  | nan {x : Float} (h : Decimal.parts x = .nan) : IsDisguised (.real x)
  /-- The positive infinity. -/
  | infinite {x : Float} (h : Decimal.parts x = .infinite false) : IsDisguised (.real x)

theorem IsDisguised.ne_text {v : Value} (h : v.IsDisguised) (s : String) : v ≠ .text s := by
  rintro rfl
  cases h

theorem startsForeign_date (d : Date) : StartsForeign d.text :=
  ((((startsForeign_padded _ _).append _).append _).append _).append _

theorem startsForeign_moment (m : Moment) : StartsForeign m.text := by
  unfold Moment.text
  iterate 8 refine StartsForeign.append ?_ _
  exact startsForeign_date m.date

/-- A floating-point number starts with a digit or a minus sign, unless it is none or infinite. -/
theorem startsForeign_real {x : Float} (hnan : Decimal.parts x ≠ .nan)
    (hinfinite : Decimal.parts x ≠ .infinite false) : StartsForeign (Decimal.text x) := by
  have hminus : ∀ text, StartsForeign ("-" ++ text) := fun text ↦
    StartsForeign.append ⟨'-', rfl, rfl⟩ text
  unfold Decimal.text
  split
  · next h => exact absurd h hnan
  · next negative h =>
    cases negative with
    | false => exact absurd h hinfinite
    | true => exact hminus "inf"
  · next negative mantissa exponent _ =>
    cases negative with
    | true => exact hminus _
    | false =>
      rw [if_neg Bool.false_ne_true]
      split
      · exact ⟨'0', rfl, rfl⟩
      · exact startsForeign_text _

/-- Bytes are shown with quotes, which no name holds. -/
theorem fault?_bytesText (bs : List UInt8) : VariableName.fault? (bytesText bs) ≠ none := by
  intro h
  have hquotes : ∀ text : List Char,
      Text.Quoted.quoteFor text = '"' ∨ Text.Quoted.quoteFor text = '\'' := by
    intro text
    unfold Text.Quoted.quoteFor
    split
    · exact .inl rfl
    · exact .inr rfl
  have hmem : Text.Quoted.quoteFor (bs.map fun b ↦ Char.ofNat b.toNat) ∈
      (bytesText bs).toList := by
    simp [bytesText]
  rcases hquotes (bs.map fun b ↦ Char.ofNat b.toNat) with hquote | hquote
  · rw [hquote] at hmem
    exact VariableName.not_mem_of_isInner h (by decide) (by decide) (by decide) hmem
  · rw [hquote] at hmem
    exact VariableName.not_mem_of_isInner h (by decide) (by decide) (by decide) hmem

/-- A value that is no text but is shown like a name is one of those. -/
theorem isDisguised_of_fault? {v : Value} (htext : ∀ s, v ≠ .text s)
    (h : VariableName.fault? v.shown = none) : v.IsDisguised := by
  have hname := VariableName.not_startsForeign h
  have hsquare : StartsForeign "[" := ⟨'[', rfl, rfl⟩
  have hcurly : StartsForeign "\x7b" := ⟨'\x7b', rfl, rfl⟩
  cases v with
  | null => exact .null
  | truth b => exact .truth b
  | integer n => exact absurd (startsForeign_int n) hname
  | real x =>
    by_cases hnan : Decimal.parts x = .nan
    · exact .nan hnan
    by_cases hinfinite : Decimal.parts x = .infinite false
    · exact .infinite hinfinite
    exact absurd (startsForeign_real hnan hinfinite) hname
  | text s => exact absurd rfl (htext s)
  | bytes bs => exact absurd h (fault?_bytesText bs)
  | date d => exact absurd (startsForeign_date d) hname
  | moment m => exact absurd (startsForeign_moment m) hname
  | list items => exact absurd ((hsquare.append _).append _) hname
  | pairs items => exact absurd ((hsquare.append _).append _) hname
  | mapping entries => exact absurd ((hcurly.append _).append _) hname
  | set members =>
    cases members with
    | nil => exact absurd h (by decide)
    | cons v members => exact absurd ((hcurly.append _).append _) hname
  | inside isMapping =>
    cases isMapping with
    | true => exact absurd h (by decide)
    | false => exact absurd h (by decide)

end Document.Value

namespace Config

open Document

variable {source : Option String} {entries : List (Value × Value)} {config : Config}

/-! ## Keys as they are kept -/

theorem text_keyOf (key : Value) : (keyOf key).text = key.shown := by
  cases key <;> rfl

theorem keyOf_eq_ofName_iff {key : Value} {name : String} :
    keyOf key = .ofName name ↔ key = .text name := by
  constructor
  · intro h
    cases key with
    | text s => exact congrArg Value.text (congrArg Key.text h)
    | _ => cases congrArg Key.foreign h
  · rintro rfl
    rfl

theorem foreign_keyOf_eq_none_iff {key : Value} :
    (keyOf key).foreign = none ↔ ∃ name, key = .text name := by
  constructor
  · intro h
    cases key with
    | text s => exact ⟨s, rfl⟩
    | _ => cases h
  · rintro ⟨name, rfl⟩
    rfl

/-- The keys that are written in the table of transforms. -/
def writtenKeys (entries : List (Value × Value)) : List Value :=
  match Value.field? "variableTransform" entries with
  | some (.mapping table) => table.map Prod.fst
  | _ => []

/-- An entry without a problem is kept under its key, which is shown like a name. -/
theorem exists_of_checkEntry_snd {key value : Value} (h : (checkEntry key value).2 = []) :
    VariableName.fault? key.shown = none ∧
      ∃ definition, (checkEntry key value).1 = some (keyOf key, definition) := by
  unfold checkEntry at h ⊢
  split at h
  · cases h
  · next hfault =>
    rw [hfault]
    exact ⟨rfl, _, rfl⟩
  · cases h

theorem map_fst_checkTable {table : List (Value × Value)}
    (h : (checkTable (some (.mapping table))).2 = []) :
    (∀ key ∈ table.map Prod.fst, VariableName.fault? key.shown = none) ∧
      (checkTable (some (.mapping table))).1.entries.map Prod.fst =
        (table.map Prod.fst).map keyOf := by
  induction table with
  | nil => exact ⟨by simp, rfl⟩
  | cons entry table ih =>
    obtain ⟨hentry, htable⟩ := List.append_eq_nil_iff.1 h
    obtain ⟨hfault, definition, hkept⟩ := exists_of_checkEntry_snd hentry
    obtain ⟨hfaults, hkeys⟩ := ih htable
    refine ⟨List.forall_mem_cons.2 ⟨hfault, hfaults⟩, ?_⟩
    rw [checkTable] at hkeys ⊢
    simp only [List.map_cons, List.filterMap_cons, hkept] at hkeys ⊢
    exact congrArg (keyOf entry.1 :: ·) hkeys

/-- A definition under a key that no other one has is found under it. -/
theorem lookup_of_mem_of_pairwise {t : List (Key × Definition)} {key : Key} {d : Definition}
    (hpairwise : t.Pairwise fun a b ↦ a.1 = key → b.1 ≠ key) (h : (key, d) ∈ t) :
    t.lookup key = some d := by
  obtain ⟨before, after, rfl⟩ := List.append_of_mem h
  refine List.lookup_eq_some_iff.2 ⟨before, after, rfl, fun entry hentry ↦ ?_⟩
  obtain ⟨-, -, hbefore⟩ := List.pairwise_append.1 hpairwise
  rw [bne_iff_ne]
  intro heq
  exact hbefore entry hentry (key, d) List.mem_cons_self heq.symm rfl

/-- The keys of an accepted table are those that are written, and all of them are shown like
names. -/
theorem map_fst_table_of_ofValue (h : ofValue source (.mapping entries) = .ok config) :
    (∀ key ∈ writtenKeys entries, VariableName.fault? key.shown = none) ∧
      config.table.entries.map Prod.fst = (writtenKeys entries).map keyOf := by
  obtain ⟨_, heq, hproblems, -, htable⟩ := exists_of_ofValue_eq_ok h
  cases heq
  simp only [problemsOf, List.append_eq_nil_iff] at hproblems
  obtain ⟨-, hproblems⟩ := hproblems
  rw [htable, writtenKeys]
  cases hfield : Value.field? "variableTransform" entries with
  | none => exact ⟨by simp, rfl⟩
  | some value =>
    rw [hfield] at hproblems
    cases value with
    | mapping table => exact map_fst_checkTable hproblems
    | _ => cases hproblems

theorem pairwise_table_of_ofValue (h : ofValue source (.mapping entries) = .ok config)
    (hdistinct : ∀ table, Value.field? "variableTransform" entries = some (.mapping table) →
      Value.HasDistinctFields table) (name : String) :
    config.table.entries.Pairwise fun a b ↦ a.1 = .ofName name → b.1 ≠ .ofName name := by
  have hwritten : (writtenKeys entries).Pairwise
      fun a b ↦ a = .text name → b ≠ .text name := by
    rw [writtenKeys]
    split
    · next table hfield =>
      exact List.pairwise_map.2 ((hdistinct table hfield).imp fun h ↦ h name)
    · exact List.Pairwise.nil
  have hkeys : (config.table.entries.map Prod.fst).Pairwise
      fun a b ↦ a = .ofName name → b ≠ .ofName name := by
    rw [(map_fst_table_of_ofValue h).2]
    refine List.pairwise_map.2 (hwritten.imp fun hab ha hb ↦ ?_)
    exact hab (keyOf_eq_ofName_iff.1 ha) (keyOf_eq_ofName_iff.1 hb)
  exact List.pairwise_map.1 hkeys

/-! ## Names and definitions -/

/-- The keys of an accepted table are shown like names, and those that are texts find their
definitions. So all keys do, if and only if none of them is disguised. The definition of a disguised
key is kept, but a variable that is called as the key is shown has none, unless it is written for it
under another key. -/
theorem ofValue_keys (h : ofValue source (.mapping entries) = .ok config)
    (hdistinct : ∀ table, Value.field? "variableTransform" entries = some (.mapping table) →
      Value.HasDistinctFields table) :
    (∀ entry ∈ config.table.entries, VariableName.fault? entry.1.text = none) ∧
      (∀ entry ∈ config.table.entries, entry.1.foreign = none →
        config.table.find? entry.1.text = some entry.2) ∧
      ((∀ entry ∈ config.table.entries, entry.1.foreign = none ∧
          config.table.find? entry.1.text = some entry.2) ↔
        ∀ key ∈ writtenKeys entries, ¬key.IsDisguised) ∧
      ∀ key ∈ writtenKeys entries, key.IsDisguised →
        (∃ definition, (keyOf key, definition) ∈ config.table.entries) ∧
          (.text key.shown ∉ writtenKeys entries → config.table.find? key.shown = none) := by
  obtain ⟨hfaults, hkeys⟩ := map_fst_table_of_ofValue h
  have hmem : ∀ key, key ∈ config.table.entries.map Prod.fst ↔
      ∃ written ∈ writtenKeys entries, keyOf written = key := by
    intro key
    rw [hkeys, List.mem_map]
  have hfind : ∀ entry ∈ config.table.entries, entry.1.foreign = none →
      config.table.find? entry.1.text = some entry.2 := by
    intro entry hentry hforeign
    have hkey : entry.1 = .ofName entry.1.text := Key.mk.injEq .. ▸ ⟨rfl, hforeign⟩
    refine lookup_of_mem_of_pairwise (pairwise_table_of_ofValue h hdistinct _) ?_
    rw [← hkey]
    exact hentry
  refine ⟨?_, hfind, ⟨?_, ?_⟩, ?_⟩
  · intro entry hentry
    obtain ⟨written, hwritten, hkey⟩ := (hmem _).1 (List.mem_map_of_mem hentry)
    rw [← hkey, text_keyOf]
    exact hfaults written hwritten
  · intro hall key hkey hdisguised
    obtain ⟨entry, hentry, hentrykey⟩ := List.mem_map.1 ((hmem _).2 ⟨key, hkey, rfl⟩)
    obtain ⟨hforeign, -⟩ := hall entry hentry
    rw [hentrykey] at hforeign
    obtain ⟨name, rfl⟩ := foreign_keyOf_eq_none_iff.1 hforeign
    exact hdisguised.ne_text name rfl
  · intro hnone entry hentry
    obtain ⟨written, hwritten, hkey⟩ := (hmem _).1 (List.mem_map_of_mem hentry)
    have htext : ∃ name, written = .text name := by
      by_contra htext
      refine hnone written hwritten (Value.isDisguised_of_fault? ?_ (hfaults written hwritten))
      exact fun name heq ↦ htext ⟨name, heq⟩
    have hforeign := foreign_keyOf_eq_none_iff.2 htext
    rw [hkey] at hforeign
    exact ⟨hforeign, hfind entry hentry hforeign⟩
  · intro key hkey hdisguised
    refine ⟨?_, fun hunwritten ↦ ?_⟩
    · obtain ⟨⟨_, definition⟩, hentry, rfl⟩ := List.mem_map.1 ((hmem _).2 ⟨key, hkey, rfl⟩)
      exact ⟨definition, hentry⟩
    · by_contra hfound
      obtain ⟨definition, hdefinition⟩ := Option.ne_none_iff_exists'.1 hfound
      have hnamed := List.mem_map_of_mem (f := Prod.fst) (Table.mem_entries_of_find? hdefinition)
      obtain ⟨written, hwritten, hname⟩ := (hmem _).1 hnamed
      rw [keyOf_eq_ofName_iff] at hname
      exact hunwritten (hname ▸ hwritten)

/-- A table with a truth value and a title as its keys. -/
def truthTable : List (Value × Value) :=
  [(.truth true, .mapping [(.text "default", .text "yes")]), (.text "title", .mapping [])]

/-- The configuration with this table. -/
def truthConfig : Config :=
  ⟨none, .empty, ⟨[(⟨"True", some "bool"⟩, ⟨none, false, some "yes", []⟩),
    (.ofName "title", .empty)]⟩, none⟩

theorem ofValue_truthTable :
    ofValue none (.mapping [(.text "variableTransform", .mapping truthTable)]) =
      .ok truthConfig :=
  rfl

theorem hasDistinctFields_truthTable : Value.HasDistinctFields truthTable :=
  List.pairwise_pair.2 fun name hname ↦ by cases hname

/-- The title is found, but a variable that is called as the truth value is shown is not. -/
theorem ofValue_keys_truthTable :
    ofValue none (.mapping [(.text "variableTransform", .mapping truthTable)]) =
        .ok truthConfig ∧
      Value.HasDistinctFields truthTable ∧
      truthConfig.table.find? "title" = some .empty ∧
      (∃ definition, (⟨"True", some "bool"⟩, definition) ∈ truthConfig.table.entries) ∧
      truthConfig.table.find? "True" = none := by
  have hdistinct : ∀ table, Value.field? "variableTransform"
      [(.text "variableTransform", .mapping truthTable)] = some (.mapping table) →
      Value.HasDistinctFields table := by
    intro table htable
    cases htable
    exact hasDistinctFields_truthTable
  obtain ⟨-, hfind, -, hdisguised⟩ := ofValue_keys ofValue_truthTable hdistinct
  obtain ⟨hkept, hnone⟩ := hdisguised (.truth true) List.mem_cons_self (.truth true)
  refine ⟨ofValue_truthTable, hasDistinctFields_truthTable, ?_, hkept, hnone ?_⟩
  · exact hfind (.ofName "title", .empty) (List.mem_cons_of_mem _ List.mem_cons_self) rfl
  · intro hmem
    rcases List.mem_pair.1 hmem with h | h
    · cases h
    · exact absurd (Value.text.inj h) (by decide)

/-- An accepted table may have a key that is no text, whose definition is not found. -/
theorem exists_foreign_of_ofValue :
    ∃ value config entry, ofValue none value = .ok config ∧ entry ∈ config.table.entries ∧
      entry.1.foreign ≠ none ∧ config.table.find? entry.1.text = none := by
  refine ⟨_, _, _, ofValue_truthTable, List.mem_cons_self, ?_, ?_⟩
  · decide
  · decide

end Config

end Scaffold
