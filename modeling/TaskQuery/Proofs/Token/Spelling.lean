/-
**How tokens are spelled.**

A token is spelled by a stretch of text, given the text that follows: a run by characters of one
kind up to the first one of another kind, any other token by its own text, unless the next character
would make it a longer token.

* `Token.Spells`: the stretches that spell a token.
* `scan_eq_iff`: a step finds exactly the tokens that are spelled.
* `exists_spells_of_mem`: all tokens of a text are spelled.
* `Token.Spells.before`: the text that follows a token may be cut short.
-/

import TaskQuery.Proofs.Token.Seam

namespace TaskQuery

/-! ### Spellings -/

/-- A stretch of characters of one kind which the text that follows does not prolong. -/
structure IsRun (keeps : Char → Bool) (stretch following : List Char) : Prop where
  written : stretch ≠ []
  only : ∀ c ∈ stretch, keeps c = true
  ends : ∀ c ∈ following.head?, keeps c = false

namespace Token

/-- Whether a token has one text only, being neither a run nor a space. -/
def isSymbol : Token → Bool
  | space | name _ | plain _ => false
  | _ => true

/-- The characters that make a longer token of a symbol if they follow it. -/
def barred : Token → List Char
  | tagMark sign => ['+', '!', '%', ':', sign.char]
  | comparison .lt | comparison .gt | bang => ['=']
  | _ => []

/-- A stretch of text spells a token, given the text that follows. -/
inductive Spells : Token → List Char → List Char → Prop where
  | space {stretch following : List Char} (run : IsRun Text.isBlank stretch following) :
      Spells .space stretch following
  | name {stretch following : List Char} (run : IsRun isTagChar stretch following) :
      Spells (.name stretch) stretch following
  | plain {stretch following : List Char} (run : IsRun isPlainChar stretch following) :
      Spells (.plain stretch) stretch following
  | symbol {token : Token} {following : List Char} (isSymbol : token.isSymbol = true)
      (apart : ∀ c ∈ following.head?, c ∉ token.barred) : Spells token token.text following

theorem text_ne_nil_of_isSymbol {token : Token} (isSymbol : token.isSymbol = true) :
    token.text ≠ [] := by
  cases token with
  | comparison relation => cases relation <;> exact List.cons_ne_nil _ _
  | space | name | plain => cases isSymbol
  | _ => exact List.cons_ne_nil _ _

namespace Spells

variable {token : Token} {stretch following : List Char}

/-- A token is written with some character. -/
theorem text_ne_nil (spells : token.Spells stretch following) : token.text ≠ [] := by
  cases spells with
  | space => exact List.cons_ne_nil _ _
  | name run => exact run.written
  | plain run => exact run.written
  | symbol isSymbol => exact text_ne_nil_of_isSymbol isSymbol

/-- A token takes some character. -/
theorem stretch_ne_nil (spells : token.Spells stretch following) : stretch ≠ [] := by
  cases spells with
  | space run | name run | plain run => exact run.written
  | symbol isSymbol => exact text_ne_nil_of_isSymbol isSymbol

/-- What follows a token may be cut short: only its first character counts. -/
theorem before {other : List Char} (spells : token.Spells stretch following)
    (cut : other.head? = following.head? ∨ other = []) : token.Spells stretch other := by
  have fewer : ∀ c ∈ other.head?, c ∈ following.head? := by
    rcases cut with same | rfl
    · exact fun c found => same ▸ found
    · intro c found
      cases found
  have shorter {keeps : Char → Bool} (run : IsRun keeps stretch following) :
      IsRun keeps stretch other :=
    ⟨run.written, run.only, fun c found => run.ends c (fewer c found)⟩
  cases spells with
  | space run => exact .space (shorter run)
  | name run => exact .name (shorter run)
  | plain run => exact .plain (shorter run)
  | symbol isSymbol apart => exact .symbol isSymbol fun c found => apart c (fewer c found)

end Spells

end Token

/-! ### Steps -/

namespace Lexer

theorem isRun_takeWhile {keeps : Char → Bool} {c : Char} (kept : keeps c = true)
    (rest : List Char) : IsRun keeps (c :: rest.takeWhile keeps) (rest.dropWhile keeps) where
  written := List.cons_ne_nil _ _
  only := by
    intro d member
    rcases List.mem_cons.mp member with rfl | member
    · exact kept
    · exact List.mem_takeWhile_imp member
  ends := by
    intro d found
    have stops := List.head?_dropWhile_not keeps rest
    rw [Option.mem_def.mp found] at stops
    exact Bool.eq_false_iff.mpr fun same => by simp [same] at stops

theorem takeWhile_of_isRun {keeps : Char → Bool} {c : Char} {stretch following : List Char}
    (run : IsRun keeps (c :: stretch) following) :
    (stretch ++ following).takeWhile keeps = stretch ∧
      (stretch ++ following).dropWhile keeps = following := by
  have all : ∀ d ∈ stretch, keeps d = true := fun d member => run.only d (.tail c member)
  rw [takeWhile_append_of_ends run.ends, dropWhile_append_of_ends run.ends,
    List.takeWhile_eq_self_iff.mpr all, List.dropWhile_eq_nil_iff.mpr all]
  exact ⟨rfl, rfl⟩

theorem isSpecial_of_sign {c : Char} {sign : Sign} (found : Sign.ofChar? c = some sign) :
    isSpecial c = true := by
  rw [← Sign.char_of_ofChar? found]
  cases sign <;> rfl

theorem isSpecial_of_scanSymbol? {c : Char} {rest : List Char} {found : Token × List Char}
    (scanned : scanSymbol? c rest = some found) : isSpecial c = true := by
  unfold scanSymbol? at scanned
  split at scanned <;> first | rfl | cases scanned

/-- A special character that is no sign begins a comparison or a terminator. -/
theorem scanSymbol?_isSome {c : Char} (special : isSpecial c = true)
    (unsigned : Sign.ofChar? c = none) (rest : List Char) : (scanSymbol? c rest).isSome = true := by
  unfold isSpecial at special
  split at special
  all_goals try first | cases unsigned | cases special
  all_goals
    unfold scanSymbol?
    split <;> first | rfl | simp_all

/-- A character that is neither blank nor special begins a run. -/
theorem scan_run {c : Char} (visible : Text.isBlank c = false) (ordinary : isSpecial c = false)
    (rest : List Char) : scan c rest = (.token (scanRun c rest).1, (scanRun c rest).2) := by
  have unsigned : Sign.ofChar? c = none := by
    cases signed : Sign.ofChar? c with
    | none => rfl
    | some sign => cases ordinary.symm.trans (isSpecial_of_sign signed)
  have none : scanSymbol? c rest = none := by
    cases scanned : scanSymbol? c rest with
    | none => rfl
    | some found => cases ordinary.symm.trans (isSpecial_of_scanSymbol? scanned)
  rw [scan, if_neg (Bool.eq_false_iff.mp visible), unsigned]
  dsimp only
  rw [none]

theorem scanRun_spells {c : Char} (visible : Text.isBlank c = false)
    (ordinary : isSpecial c = false) (rest : List Char) :
    ∃ stretch, rest = stretch ++ (scanRun c rest).2 ∧
      (scanRun c rest).1.Spells (c :: stretch) (scanRun c rest).2 := by
  by_cases named : isTagChar c = true
  · rw [scanRun, if_pos named]
    exact ⟨_, List.takeWhile_append_dropWhile.symm, .name (isRun_takeWhile named rest)⟩
  · have kept : isPlainChar c = true := by
      rw [isPlainChar, visible, Bool.eq_false_iff.mpr named, ordinary]
      rfl
    rw [scanRun, if_neg named]
    exact ⟨_, List.takeWhile_append_dropWhile.symm, .plain (isRun_takeWhile kept rest)⟩

theorem scanSymbol?_spells {c : Char} {rest following : List Char} {token : Token}
    (scanned : scanSymbol? c rest = some (token, following)) :
    ∃ stretch, rest = stretch ++ following ∧ token.Spells (c :: stretch) following := by
  have apart {second : Char} (alone : ∀ more, rest = second :: more → False) :
      ∀ d ∈ rest.head?, d ∉ [second] := by
    intro d found member
    obtain ⟨more, rfl⟩ := List.head?_eq_some_iff.mp found
    exact alone more (by rw [List.mem_singleton.mp member])
  have free : ∀ d ∈ rest.head?, d ∉ ([] : List Char) := fun _ _ => List.not_mem_nil
  unfold scanSymbol? at scanned
  split at scanned <;> cases scanned
  · exact ⟨['='], rfl, .symbol rfl fun _ _ => List.not_mem_nil⟩
  · exact ⟨['='], rfl, .symbol rfl fun _ _ => List.not_mem_nil⟩
  · exact ⟨['='], rfl, .symbol rfl fun _ _ => List.not_mem_nil⟩
  · exact ⟨[], rfl, .symbol rfl free⟩
  · exact ⟨[], rfl, .symbol rfl (apart (by simp_all))⟩
  · exact ⟨[], rfl, .symbol rfl (apart (by simp_all))⟩
  · exact ⟨[], rfl, .symbol rfl (apart (by simp_all))⟩
  · exact ⟨[], rfl, .symbol rfl free⟩

theorem scanSign_spells {sign : Sign} {rest following : List Char} {token : Token}
    (scanned : scanSign sign rest = (.token token, following)) :
    ∃ stretch, rest = stretch ++ following ∧ token.Spells (sign.char :: stretch) following := by
  cases rest with
  | nil =>
    cases scanned
    exact ⟨[], rfl, .symbol rfl fun _ found => by cases found⟩
  | cons d rest =>
    by_cases plus : d = '+'
    · subst plus
      cases scanned
    by_cases bang : d = '!'
    · subst bang
      cases scanned
    by_cases percent : d = '%'
    · subst percent
      cases scanned
      exact ⟨['%'], rfl, .symbol rfl fun _ _ => List.not_mem_nil⟩
    by_cases colon : d = ':'
    · subst colon
      cases scanned
      exact ⟨[':'], rfl, .symbol rfl fun _ _ => List.not_mem_nil⟩
    rw [scanSign_mark plus bang percent colon] at scanned
    by_cases doubled : d = sign.char
    · rw [if_pos doubled] at scanned
      cases scanned
      exact ⟨[sign.char], by rw [doubled]; rfl, .symbol rfl fun _ _ => List.not_mem_nil⟩
    · rw [if_neg doubled] at scanned
      cases scanned
      refine ⟨[], rfl, .symbol rfl ?_⟩
      intro c found
      obtain rfl : d = c := Option.some.inj found
      simp [Token.barred, plus, bang, percent, colon, doubled]

/-- A step finds a token where it is spelled. -/
theorem spells_of_scan {c : Char} {rest following : List Char} {token : Token}
    (scanned : scan c rest = (.token token, following)) :
    ∃ stretch, rest = stretch ++ following ∧ token.Spells (c :: stretch) following := by
  unfold scan at scanned
  split at scanned
  · next blank =>
    cases scanned
    exact ⟨_, List.takeWhile_append_dropWhile.symm, .space (isRun_takeWhile blank rest)⟩
  · next visible =>
    have visible := Bool.eq_false_iff.mpr visible
    split at scanned
    · next sign signed =>
      rw [← Sign.char_of_ofChar? signed]
      exact scanSign_spells scanned
    · next unsigned =>
      split at scanned
      · next found =>
        cases scanned
        exact scanSymbol?_spells found
      · next none =>
        cases scanned
        have ordinary : isSpecial c = false := by
          refine Bool.eq_false_iff.mpr fun special => ?_
          have some := scanSymbol?_isSome special unsigned rest
          rw [none] at some
          cases some
        exact scanRun_spells visible ordinary rest

theorem visible_of_isTagChar {c : Char} (named : isTagChar c = true) :
    Text.isBlank c = false ∧ isSpecial c = false := by
  constructor
  · refine Bool.eq_false_iff.mpr fun blank => ?_
    cases named.symm.trans (isTagChar_false_of_isBlank blank)
  · refine Bool.eq_false_iff.mpr fun special => ?_
    cases named.symm.trans (isTagChar_false_of_isSpecial special)

theorem visible_of_isPlainChar {c : Char} (plain : isPlainChar c = true) :
    Text.isBlank c = false ∧ isTagChar c = false ∧ isSpecial c = false := by
  simpa [isPlainChar, and_assoc] using plain

theorem scan_tagMark {sign : Sign} {following : List Char}
    (apart : ∀ c ∈ following.head?, c ∉ (Token.tagMark sign).barred) :
    scanSign sign following = (.token (.tagMark sign), following) := by
  cases following with
  | nil => rfl
  | cons d following =>
    have free := apart d rfl
    simp only [Token.barred, List.mem_cons, List.not_mem_nil, or_false, not_or] at free
    rw [scanSign_mark free.1 free.2.1 free.2.2.1 free.2.2.2.1, if_neg free.2.2.2.2]

/-- A symbol of one character that an equals sign would prolong stands alone before any other. -/
theorem scanSymbol?_alone {following : List Char} (apart : ∀ c ∈ following.head?, c ∉ ['=']) :
    scanSymbol? '<' following = some (.comparison .lt, following) ∧
      scanSymbol? '>' following = some (.comparison .gt, following) ∧
        scanSymbol? '!' following = some (.bang, following) := by
  cases following with
  | nil => exact ⟨rfl, rfl, rfl⟩
  | cons d following =>
    have different : d ≠ '=' := fun same => apart d rfl (List.mem_singleton.mpr same)
    refine ⟨?_, ?_, ?_⟩ <;>
      · unfold scanSymbol?
        split <;> simp_all

theorem scanSymbol?_equals (following : List Char) :
    scanSymbol? '=' following = some (.comparison .eq, following) := by
  unfold scanSymbol?
  split <;> simp_all

theorem scan_of_scanSymbol? {c : Char} {rest following : List Char} {token : Token}
    (visible : Text.isBlank c = false) (unsigned : Sign.ofChar? c = none)
    (scanned : scanSymbol? c rest = some (token, following)) :
    scan c rest = (.token token, following) := by
  rw [scan, if_neg (Bool.eq_false_iff.mp visible), unsigned]
  dsimp only
  rw [scanned]

/-- A token that is spelled is what a step finds. -/
theorem scan_of_spells {c : Char} {stretch following : List Char} {token : Token}
    (spells : token.Spells (c :: stretch) following) :
    scan c (stretch ++ following) = (.token token, following) := by
  generalize whole : c :: stretch = spelling at spells
  cases spells with
  | space run =>
    subst whole
    obtain ⟨_, left⟩ := takeWhile_of_isRun run
    rw [scan, if_pos (run.only c List.mem_cons_self), left]
  | name run =>
    subst whole
    have named := run.only c List.mem_cons_self
    obtain ⟨visible, ordinary⟩ := visible_of_isTagChar named
    obtain ⟨taken, left⟩ := takeWhile_of_isRun run
    rw [scan_run visible ordinary, scanRun, if_pos named, taken, left]
  | plain run =>
    subst whole
    obtain ⟨visible, unnamed, ordinary⟩ := visible_of_isPlainChar (run.only c List.mem_cons_self)
    obtain ⟨taken, left⟩ := takeWhile_of_isRun run
    rw [scan_run visible ordinary, scanRun, if_neg (Bool.eq_false_iff.mp unnamed), taken, left]
  | symbol isSymbol apart =>
    cases token with
    | space | name | plain => cases isSymbol
    | escape sign => cases sign <;> cases whole <;> rfl
    | savedMark sign => cases sign <;> cases whole <;> rfl
    | optionMark sign => cases sign <;> cases whole <;> rfl
    | tagMark sign =>
      have marked := scan_tagMark apart
      cases sign <;> cases whole <;> exact marked
    | ask => cases whole; rfl
    | bang =>
      cases whole
      exact scan_of_scanSymbol? rfl rfl (scanSymbol?_alone apart).2.2
    | comparison relation =>
      cases relation <;> cases whole
      · exact scan_of_scanSymbol? rfl rfl rfl
      · exact scan_of_scanSymbol? rfl rfl rfl
      · exact scan_of_scanSymbol? rfl rfl rfl
      · exact scan_of_scanSymbol? rfl rfl (scanSymbol?_equals following)
      · exact scan_of_scanSymbol? rfl rfl (scanSymbol?_alone apart).1
      · exact scan_of_scanSymbol? rfl rfl (scanSymbol?_alone apart).2.1

/-- **A step finds a token exactly where it is spelled.** -/
theorem scan_eq_iff {c : Char} {rest following : List Char} {token : Token} :
    scan c rest = (.token token, following) ↔
      ∃ stretch, rest = stretch ++ following ∧ token.Spells (c :: stretch) following := by
  constructor
  · exact spells_of_scan
  · rintro ⟨stretch, rfl, spells⟩
    exact scan_of_spells spells

/-! ### The whole text -/

/-- A spelled token is the first piece of its text. -/
theorem lexemes_of_spells {stretch following : List Char} {token : Token}
    (spells : token.Spells stretch following) :
    lexemes (stretch ++ following) = .token token :: lexemes following := by
  obtain ⟨c, stretch, rfl⟩ := List.exists_cons_of_ne_nil spells.stretch_ne_nil
  rw [List.cons_append, lexemes_cons, scan_of_spells spells]

/-- All tokens of a text are spelled, also the space that an extra payload leaves behind. -/
theorem exists_spells_of_mem {text : List Char} {token : Token}
    (member : token ∈ (lexemes text).filterMap Lexeme.token?) :
    ∃ stretch following, token.Spells stretch following := by
  fun_induction lexemes text with
  | case1 => cases member
  | case2 c rest later =>
    obtain ⟨piece, isPiece, found⟩ := List.mem_filterMap.mp member
    rcases List.mem_cons.mp isPiece with rfl | isPiece
    · rcases scan_cases c rest with ⟨first, following, scanned⟩ | ⟨_, rfl, scanned⟩ |
        ⟨_, rfl, scanned⟩
      · obtain ⟨stretch, _, spells⟩ := spells_of_scan scanned
        rw [scanned] at found
        cases found
        exact ⟨c :: stretch, following, spells⟩
      · rw [scanned] at found
        cases found
        have blank : ∀ d ∈ [' '], Text.isBlank d = true := fun d member => by
          rw [List.mem_singleton.mp member]
          exact Text.isBlank_space
        exact ⟨[' '], [], .space ⟨List.cons_ne_nil _ _, blank, fun _ ends => by cases ends⟩⟩
      · rw [scanned] at found
        cases found
    · exact later (List.mem_filterMap.mpr ⟨piece, isPiece, found⟩)

end Lexer

end TaskQuery
