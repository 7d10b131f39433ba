import Mathlib
import Scaffold.Placeholder.Name
import Scaffold.Placeholder.Scan
import Scaffold.Placeholder.Substitute
import Scaffold.Proofs.Text.Caseless
import Scaffold.Proofs.Text.Rule

/-!
# Filling in placeholders all at once

Placeholders are filled in variable by variable, and each variable in turn works on the text that
those before it have left. In general this is not the same as putting values in the place of all
placeholders at once: an inserted value may hold or complete a placeholder of a later variable,
neighbouring placeholders may share a delimiter, and of names that differ only by case the first
takes the placeholders of all. It is the same as long as no variable meets its placeholder anywhere
but where one of its own was in the text from the start.
-/

namespace Scaffold.Placeholder

open Text (Piece)

variable {w : Wrapper} {values : String → Option String} {done : List String} {name : String}

/-- The name agrees without regard to case with one that was found. -/
def agrees (name : String) (found : List Char) : Bool :=
  Text.dropCaseless? name.toList found = some []

/-- The value that the first of the names that agree with a found one puts in its place. -/
def valueFor (values : String → Option String) (names : List String) (found : List Char) :
    List Char :=
  (((names.find? (agrees · found)).bind values).getD "").toList

/-- The text with the value of each found name put in its place, all at once. -/
def simultaneous (w : Wrapper) (values : String → Option String) (text : String) : String :=
  String.ofList ((rule w).replace
    (fun found ↦ ((values (String.ofList found)).getD "").toList) text.toList)

/-- Filling in differs from putting all values in place at once, though all names are good and have
values: when a value is the placeholder of a later variable, when neighbours share a delimiter, and
when names differ only by case. -/
theorem fill_ne_simultaneous :
    ((∀ name ∈ ["aa", "bb", "AA"], VariableName.fault? name = none) ∧
      (names ⟨"<<", ">>"⟩ "<<aa>><<bb>>" = ["aa", "bb"] ∧
        fill ⟨"<<", ">>"⟩ ([("aa", "<<bb>>"), ("bb", "x")].lookup ·) ["aa", "bb"] "<<aa>><<bb>>" =
          .ok "xx" ∧
        simultaneous ⟨"<<", ">>"⟩ ([("aa", "<<bb>>"), ("bb", "x")].lookup ·) "<<aa>><<bb>>" =
          "<<bb>>x") ∧
      (names ⟨"__", "__"⟩ "__bb__ __aa__bb__" = ["bb", "aa"] ∧
        fill ⟨"__", "__"⟩ ([("bb", "x"), ("aa", "y")].lookup ·) ["bb", "aa"] "__bb__ __aa__bb__" =
          .ok "x __aax" ∧
        simultaneous ⟨"__", "__"⟩ ([("bb", "x"), ("aa", "y")].lookup ·) "__bb__ __aa__bb__" =
          "x ybb__") ∧
      (names ⟨"__", "__"⟩ "__aa__ __AA__" = ["aa", "AA"] ∧
        fill ⟨"__", "__"⟩ ([("aa", "x"), ("AA", "y")].lookup ·) ["aa", "AA"] "__aa__ __AA__" =
          .ok "x x" ∧
        simultaneous ⟨"__", "__"⟩ ([("aa", "x"), ("AA", "y")].lookup ·) "__aa__ __AA__" =
          "x y")) := by
  decide

/-- When all variables have values, filling in does not fail. -/
theorem fill_eq_ok {order : List String} (h : ∀ name ∈ order, (values name).isSome = true)
    (text : String) :
    fill w values order text =
      .ok (String.ofList (order.foldl
        (fun text name ↦ fillOne w text name ((values name).getD "")) text.toList)) := by
  have hmissing : order.filter (fun name ↦ (values name).isNone) = [] := by
    refine List.filter_eq_nil_iff.2 fun name hname ↦ ?_
    simp [Option.isSome_iff_ne_none.1 (h name hname)]
  rw [fill, hmissing]

/-! ## What a placeholder looks like -/

theorem agrees_ofList (found : List Char) : agrees (String.ofList found) found = true := by
  have hrefl := Text.dropCaseless?_append (Text.AgreeCaseless.refl found) []
  rw [List.append_nil] at hrefl
  simp [agrees, hrefl]

theorem agreeCaseless_of_agrees {found : List Char} (h : agrees name found = true) :
    Text.AgreeCaseless name.toList found := by
  rw [agrees, decide_eq_true_eq] at h
  obtain ⟨head, hhead, heq⟩ := Text.dropCaseless?_eq_some_iff.1 h
  rwa [heq, List.append_nil]

theorem longestName?_spec {closing text found : List Char} {n : ℕ} (hn : n ≤ text.length)
    (h : longestName? closing text n = some found) :
    found ≠ [] ∧ found.length ≤ n ∧
      ∃ head rest, Text.AgreeCaseless closing head ∧ text = found ++ (head ++ rest) := by
  induction n with
  | zero => cases h
  | succ n ih =>
    rw [longestName?] at h
    by_cases hclose : (Text.dropCaseless? closing (text.drop (n + 1))).isSome
    · rw [if_pos hclose, Option.some.injEq] at h
      subst h
      obtain ⟨rest, hrest⟩ := Option.isSome_iff_exists.1 hclose
      obtain ⟨head, hhead, hdrop⟩ := Text.dropCaseless?_eq_some_iff.1 hrest
      refine ⟨?_, List.length_take_le _ _, head, rest, hhead, ?_⟩
      · rw [← List.length_pos_iff, List.length_take]
        omega
      · rw [← hdrop, List.take_append_drop]
    · rw [if_neg hclose] at h
      obtain ⟨hne, hlength, hsplit⟩ := ih (by omega) h
      exact ⟨hne, by omega, hsplit⟩

/-- The token of a placeholder is an opening delimiter, the name that is found and a closing
delimiter. -/
theorem token_of_mem_pieces {text found token : List Char}
    (h : .found found token ∈ (rule w).pieces text) :
    found ≠ [] ∧ (∀ c ∈ found, isNameChar c = true) ∧
      ∃ opening closing, Text.AgreeCaseless w.opening.toList opening ∧
        Text.AgreeCaseless w.closing.toList closing ∧ token = opening ++ (found ++ closing) := by
  obtain ⟨suffix, find, hfind, rfl, rfl⟩ := Text.Rule.exists_find_of_mem_piecesFrom h
  rw [rule, Option.bind_eq_bind, Option.bind_eq_some_iff] at hfind
  obtain ⟨after, hafter, hfind⟩ := hfind
  obtain ⟨found, hname, hfind⟩ := Option.bind_eq_some_iff.1 hfind
  cases hfind
  obtain ⟨opening, hopening, rfl⟩ := Text.dropCaseless?_eq_some_iff.1 hafter
  have hlength : (after.takeWhile isNameChar).length ≤ after.length :=
    (List.takeWhile_prefix _).length_le
  obtain ⟨hne, hshort, closing, rest, hclosing, rfl⟩ := longestName?_spec hlength hname
  have hfront := List.prefix_of_prefix_length_le (List.prefix_append found (closing ++ rest))
    (List.takeWhile_prefix isNameChar) hshort
  refine ⟨hne, fun c hc ↦ List.mem_takeWhile_imp (hfront.subset hc), opening, closing, hopening,
    hclosing, ?_⟩
  have hpos := List.length_pos_iff.2 hne
  have hcovered : w.opening.length + found.length + w.closing.length - 1 + 1 =
      (opening ++ (found ++ closing)).length := by
    rw [← String.length_toList, ← String.length_toList, hopening.length_eq, hclosing.length_eq,
      List.length_append, List.length_append]
    omega
  have htext : opening ++ (found ++ (closing ++ rest)) = opening ++ (found ++ closing) ++ rest := by
    simp only [List.append_assoc]
  rw [hcovered, htext, List.take_left]

/-- A placeholder whose name agrees begins with what is searched for, and ends with it. -/
theorem agreeCaseless_token {found token text : List Char}
    (h : .found found token ∈ (rule w).pieces text) (hname : agrees name found = true) :
    Text.AgreeCaseless (w.wrap name).toList token := by
  obtain ⟨-, -, opening, closing, hopening, hclosing, rfl⟩ := token_of_mem_pieces h
  rw [Wrapper.wrap, String.toList_append, String.toList_append, List.append_assoc]
  exact List.rel_append hopening (List.rel_append (agreeCaseless_of_agrees hname) hclosing)

/-! ## One variable -/

/-- The characters of a piece when the placeholders of some variables have been filled in. -/
def shown (values : String → Option String) (done : List String) : Piece (List Char) → List Char
  | .kept c => [c]
  | .found found token =>
    if (done.find? (agrees · found)).isSome then valueFor values done found else token

/-- The piece is a placeholder that is not filled in, and has its turn now. -/
def isOwn (done : List String) (name : String) : Piece (List Char) → Bool
  | .kept _ => false
  | .found found _ => (done.find? (agrees · found)).isNone && agrees name found

/-- The placeholder of a variable begins in no piece but its own. -/
def isUndisturbed (w : Wrapper) (values : String → Option String) (done : List String)
    (name : String) : List (Piece (List Char)) → Bool
  | [] => true
  | piece :: pieces =>
    (isOwn done name piece ||
        (literalRule (w.wrap name).toList).isSilent (shown values done piece)
          (pieces.flatMap (shown values done))) &&
      isUndisturbed w values done name pieces

theorem shown_append_of_isOwn {piece : Piece (List Char)} (h : isOwn done name piece = true) :
    shown values (done ++ [name]) piece = ((values name).getD "").toList := by
  cases piece with
  | kept c => cases h
  | found found token =>
    rw [isOwn, Bool.and_eq_true, Option.isNone_iff_eq_none] at h
    have hfind : (done ++ [name]).find? (agrees · found) = some name := by
      rw [List.find?_append, h.1, Option.none_or, List.find?_singleton, if_pos h.2]
    rw [shown, valueFor, hfind]
    rfl

theorem shown_append_of_not_isOwn {piece : Piece (List Char)} (h : isOwn done name piece = false) :
    shown values (done ++ [name]) piece = shown values done piece := by
  cases piece with
  | kept c => rfl
  | found found token =>
    have hfind : (done ++ [name]).find? (agrees · found) = done.find? (agrees · found) := by
      rw [List.find?_append]
      cases hdone : done.find? (agrees · found) with
      | some other => rfl
      | none =>
        rw [isOwn, hdone, Option.isNone_none, Bool.true_and] at h
        rw [Option.none_or, List.find?_singleton, if_neg (by rw [h]; decide)]
    rw [shown, shown, valueFor, valueFor, hfind]

theorem text_of_isOwn {piece : Piece (List Char)} (h : isOwn done name piece = true) :
    ∃ found, piece = .found found (shown values done piece) ∧ agrees name found = true := by
  cases piece with
  | kept c => cases h
  | found found token =>
    rw [isOwn, Bool.and_eq_true, Option.isNone_iff_eq_none] at h
    refine ⟨found, ?_, h.2⟩
    rw [shown, h.1]
    rfl

/-- A variable whose placeholder begins in its own pieces only has just these replaced. -/
theorem fillOne_flatMap_shown {pieces : List (Piece (List Char))}
    (htokens : ∀ found token, .found found token ∈ pieces → agrees name found = true →
      Text.AgreeCaseless (w.wrap name).toList token)
    (hne : (w.wrap name).toList ≠ []) (h : isUndisturbed w values done name pieces = true) :
    fillOne w (pieces.flatMap (shown values done)) name ((values name).getD "") =
      pieces.flatMap (shown values (done ++ [name])) := by
  rw [fillOne, replaceLiteral, if_neg (by rwa [List.isEmpty_iff])]
  induction pieces with
  | nil => rfl
  | cons piece pieces ih =>
    rw [isUndisturbed, Bool.and_eq_true, Bool.or_eq_true] at h
    obtain ⟨hpiece, hpieces⟩ := h
    have ih := ih (fun found token hmem ↦ htokens found token (List.mem_cons_of_mem _ hmem)) hpieces
    rw [List.flatMap_cons, List.flatMap_cons]
    by_cases hown : isOwn done name piece = true
    -- a piece of its own is passed over as a whole, whatever begins within it
    · obtain ⟨found, hfound, hagrees⟩ :
          ∃ found, piece = .found found (shown values done piece) ∧ agrees name found = true :=
        text_of_isOwn hown
      have htoken := htokens found (shown values done piece) (hfound ▸ List.mem_cons_self) hagrees
      have hfind : literalRule (w.wrap name).toList
          (shown values done piece ++ pieces.flatMap (shown values done)) =
          some ⟨(), (w.wrap name).toList.length - 1⟩ := by
        rw [literalRule, Text.dropCaseless?_append htoken, Option.map_some]
      have hlength : (shown values done piece).length = (w.wrap name).toList.length - 1 + 1 := by
        have hpos := List.length_pos_iff.2 hne
        rw [← htoken.length_eq]
        omega
      rw [Text.Rule.replace_append_of_find hfind hlength, ih, shown_append_of_isOwn hown]
    · rw [Text.Rule.replace_append_of_isSilent (hpiece.resolve_left hown), ih,
        shown_append_of_not_isOwn (by simpa using hown)]

/-! ## All variables -/

/-- The placeholder of no variable begins outside its own pieces when its turn comes. -/
def isUndisturbedThroughout (w : Wrapper) (values : String → Option String)
    (pieces : List (Piece (List Char))) : (done names : List String) → Bool
  | _, [] => true
  | done, name :: names =>
    isUndisturbed w values done name pieces &&
      isUndisturbedThroughout w values pieces (done ++ [name]) names

theorem foldl_fillOne {names : List String} {pieces : List (Piece (List Char))}
    (htokens : ∀ name ∈ names, ∀ found token, .found found token ∈ pieces →
      agrees name found = true → Text.AgreeCaseless (w.wrap name).toList token)
    (hne : ∀ name ∈ names, (w.wrap name).toList ≠ [])
    (h : isUndisturbedThroughout w values pieces done names = true) :
    names.foldl (fun text name ↦ fillOne w text name ((values name).getD ""))
      (pieces.flatMap (shown values done)) = pieces.flatMap (shown values (done ++ names)) := by
  induction names generalizing done with
  | nil => rw [List.append_nil, List.foldl_nil]
  | cons name names ih =>
    obtain ⟨htoken, htokens⟩ := List.forall_mem_cons.1 htokens
    obtain ⟨hname, hne⟩ := List.forall_mem_cons.1 hne
    rw [isUndisturbedThroughout, Bool.and_eq_true] at h
    rw [List.foldl_cons, fillOne_flatMap_shown htoken hname h.1, ih htokens hne h.2,
      List.append_assoc, List.singleton_append]

theorem flatMap_shown_nil (pieces : List (Piece (List Char))) :
    pieces.flatMap (shown values []) = pieces.flatMap Piece.text := by
  refine List.flatMap_congr fun piece _ ↦ ?_
  cases piece <;> rfl

theorem mem_names_iff {text : String} :
    name ∈ names w text ↔
      ∃ found token, .found found token ∈ (rule w).pieces text.toList ∧
        String.ofList found = name := by
  rw [names, Text.Rule.finds_eq_filterMap, List.mem_map]
  constructor
  · rintro ⟨found, hfound, rfl⟩
    obtain ⟨piece, hpiece, hvalue⟩ := List.mem_filterMap.1 hfound
    cases piece with
    | kept c => cases hvalue
    | found value token =>
      cases hvalue
      exact ⟨found, token, hpiece, rfl⟩
  · rintro ⟨found, token, hpiece, rfl⟩
    exact ⟨found, List.mem_filterMap.2 ⟨_, hpiece, rfl⟩, rfl⟩

theorem wrap_ne_nil_of_mem_names {text : String} (h : name ∈ names w text) :
    (w.wrap name).toList ≠ [] := by
  obtain ⟨found, token, hpiece, rfl⟩ := mem_names_iff.1 h
  have hne := (token_of_mem_pieces hpiece).1
  simp [Wrapper.wrap, hne]

theorem shown_eq_render {text : String} {piece : Piece (List Char)}
    (hcover : ∀ name ∈ names w text, name ∈ done) (h : piece ∈ (rule w).pieces text.toList) :
    shown values done piece = piece.render (valueFor values done) := by
  cases piece with
  | kept c => rfl
  | found found token =>
    have hmem := hcover _ (mem_names_iff.2 ⟨found, token, h, rfl⟩)
    have hsome : (done.find? (agrees · found)).isSome = true :=
      List.find?_isSome.2 ⟨_, hmem, agrees_ofList found⟩
    rw [shown, if_pos hsome]
    rfl

theorem foldl_fillOne_names {text : String}
    (h : isUndisturbedThroughout w values ((rule w).pieces text.toList) []
      (names w text).eraseDups = true) :
    (names w text).eraseDups.foldl (fun text name ↦ fillOne w text name ((values name).getD ""))
      text.toList = (rule w).replace (valueFor values (names w text).eraseDups) text.toList := by
  have hfold := foldl_fillOne (fun name _ found token hmem hname ↦ agreeCaseless_token hmem hname)
    (fun name hname ↦ wrap_ne_nil_of_mem_names (List.mem_eraseDups.1 hname)) h
  rw [flatMap_shown_nil, Text.Rule.flatMap_text_pieces, List.nil_append] at hfold
  rw [hfold, Text.Rule.replace_eq_flatMap]
  exact List.flatMap_congr fun piece hpiece ↦
    shown_eq_render (fun name hname ↦ List.mem_eraseDups.2 hname) hpiece

/-- Among names that differ by more than case, a found name gets its own value. -/
theorem replace_valueFor_eq_simultaneous {text : String}
    (h : ∀ name ∈ names w text, ∀ other ∈ names w text,
      agrees other name.toList = true → other = name) :
    String.ofList ((rule w).replace (valueFor values (names w text).eraseDups) text.toList) =
      simultaneous w values text := by
  rw [simultaneous, Text.Rule.replace_eq_flatMap, Text.Rule.replace_eq_flatMap]
  refine congrArg String.ofList (List.flatMap_congr fun piece hpiece ↦ ?_)
  cases piece with
  | kept c => rfl
  | found found token =>
    have hmem : String.ofList found ∈ names w text := mem_names_iff.2 ⟨found, token, hpiece, rfl⟩
    have hfind : (names w text).eraseDups.find? (agrees · found) = some (String.ofList found) := by
      cases hfirst : (names w text).eraseDups.find? (agrees · found) with
      | none =>
        have hnone := List.find?_eq_none.1 hfirst _ (List.mem_eraseDups.2 hmem)
        exact absurd (agrees_ofList found) hnone
      | some first =>
        have hagrees := List.find?_some hfirst
        have hmemFirst := List.mem_eraseDups.1 (List.mem_of_find?_eq_some hfirst)
        rw [h _ hmem _ hmemFirst (by rwa [String.toList_ofList])]
    rw [Piece.render, Piece.render, valueFor, hfind, Option.bind_some]

/-- Filling in placeholders variable by variable puts values in the place of all of them at once, if
no variable meets its placeholder but where its own pieces are. Among names that differ by more than
case, each gets its own value. -/
theorem fill_names_eq_replace {text : String}
    (hvalues : ∀ name ∈ names w text, (values name).isSome = true)
    (h : isUndisturbedThroughout w values ((rule w).pieces text.toList) []
      (names w text).eraseDups = true) :
    fill w values (names w text).eraseDups text =
        .ok (String.ofList ((rule w).replace
          (valueFor values (names w text).eraseDups) text.toList)) ∧
      ((∀ name ∈ names w text, ∀ other ∈ names w text,
          agrees other name.toList = true → other = name) →
        fill w values (names w text).eraseDups text = .ok (simultaneous w values text)) := by
  have hfill : fill w values (names w text).eraseDups text = .ok (String.ofList
      ((rule w).replace (valueFor values (names w text).eraseDups) text.toList)) := by
    rw [fill_eq_ok (fun name hname ↦ hvalues name (List.mem_eraseDups.1 hname)),
      foldl_fillOne_names h]
  exact ⟨hfill, fun hdistinct ↦ by rw [hfill, replace_valueFor_eq_simultaneous hdistinct]⟩

theorem fill_names_eq_replace_title :
    fill ⟨"___", "___"⟩ ([("title", "__Web__"), ("TITLE", ""), ("slug", "web-app")].lookup ·)
      ["title", "TITLE", "slug"] "# ___title___ (___TITLE___) ___slug___" =
        .ok "# __Web__ (__Web__) web-app" := by
  have hfill : fill ⟨"___", "___"⟩
      ([("title", "__Web__"), ("TITLE", ""), ("slug", "web-app")].lookup ·) _
      "# ___title___ (___TITLE___) ___slug___" = _ :=
    (fill_names_eq_replace (by decide) (by decide)).1
  have hnames : (names ⟨"___", "___"⟩
      "# ___title___ (___TITLE___) ___slug___").eraseDups = ["title", "TITLE", "slug"] := by
    decide
  rw [hnames] at hfill
  rw [hfill]
  decide

end Scaffold.Placeholder
