/-
**Splitting a query into tokens.**

At every position one rule applies, decided by the first two characters, and takes at least one
character. Two markers end the ordinary text of a query: `#+` takes everything up to the next
command marker as the extra payload and leaves a space behind, `#!` takes the rest as the command.

* `scan_rest_length`: a step shortens the text.
* `lexemes`: the pieces of a text from left to right.
* `tokenize`: its tokens and payloads.
-/

import TaskQuery.Token

namespace TaskQuery

/-- A piece of a query. -/
inductive Lexeme where
  | token (found : Token)
  /-- The payload after `#+`. -/
  | extra (text : List Char)
  /-- The payload after `#!`. -/
  | command (text : List Char)
  deriving DecidableEq, Repr

namespace Lexeme

/-- The token that a piece adds: an extra payload counts as a space, a command as nothing. -/
def token? : Lexeme → Option Token
  | token found => some found
  | extra _ => some .space
  | command _ => none

/-- The extra payload of a piece. -/
def extra? : Lexeme → Option (List Char)
  | extra text => some text
  | _ => none

/-- The command payload of a piece. -/
def command? : Lexeme → Option (List Char)
  | command text => some text
  | _ => none

end Lexeme

namespace Lexer

/-! ### One step -/

/-- Whether a text begins with the marker of a command. -/
def startsCommand : List Char → Bool
  | c :: '!' :: _ => (Sign.ofChar? c).isSome
  | _ => false

/-- The text before the first command marker, and the text from there on. -/
def splitAtCommand : List Char → List Char × List Char
  | [] => ([], [])
  | c :: rest =>
    if startsCommand (c :: rest) then ([], c :: rest)
    else ((c :: (splitAtCommand rest).1), (splitAtCommand rest).2)

/-- The piece that begins with a sign, given what follows the sign. -/
def scanSign (sign : Sign) : List Char → Lexeme × List Char
  | '+' :: rest => (.extra (Text.trim (splitAtCommand rest).1), (splitAtCommand rest).2)
  | '!' :: rest => (.command (Text.trim rest), [])
  | '%' :: rest => (.token (.savedMark sign), rest)
  | ':' :: rest => (.token (.optionMark sign), rest)
  | c :: rest =>
    if c = sign.char then (.token (.escape sign), rest) else (.token (.tagMark sign), c :: rest)
  | [] => (.token (.tagMark sign), [])

/-- The comparison or terminator that begins with a character, given what follows it. -/
def scanSymbol? : Char → List Char → Option (Token × List Char)
  | '<', '=' :: rest => some (.comparison .le, rest)
  | '>', '=' :: rest => some (.comparison .ge, rest)
  | '!', '=' :: rest => some (.comparison .ne, rest)
  | '=', rest => some (.comparison .eq, rest)
  | '<', rest => some (.comparison .lt, rest)
  | '>', rest => some (.comparison .gt, rest)
  | '!', rest => some (.bang, rest)
  | '?', rest => some (.ask, rest)
  | _, _ => none

/-- The run that begins with a character. -/
def scanRun (c : Char) (rest : List Char) : Token × List Char :=
  if isTagChar c then (.name (c :: rest.takeWhile isTagChar), rest.dropWhile isTagChar)
  else (.plain (c :: rest.takeWhile isPlainChar), rest.dropWhile isPlainChar)

/-- The first piece of a non-empty text, and the text after it. -/
def scan (c : Char) (rest : List Char) : Lexeme × List Char :=
  if Text.isBlank c then (.token .space, rest.dropWhile Text.isBlank)
  else
    match Sign.ofChar? c with
    | some sign => scanSign sign rest
    | none =>
      match scanSymbol? c rest with
      | some (token, rest) => (.token token, rest)
      | none => ((.token (scanRun c rest).1), (scanRun c rest).2)

/-! ### A step shortens the text -/

theorem splitAtCommand_length (text : List Char) :
    (splitAtCommand text).2.length ≤ text.length := by
  induction text with
  | nil => simp [splitAtCommand]
  | cons c rest shorter =>
    unfold splitAtCommand
    split
    · simp
    · simp only [List.length_cons]; omega

theorem scanSign_length (sign : Sign) (rest : List Char) :
    (scanSign sign rest).2.length ≤ rest.length := by
  unfold scanSign
  split
  · have shorter := splitAtCommand_length (by assumption)
    simp only [List.length_cons]; omega
  · simp
  · simp
  · simp
  · split <;> simp
  · simp

theorem scanSymbol?_length {c : Char} {rest after : List Char} {token : Token}
    (found : scanSymbol? c rest = some (token, after)) : after.length ≤ rest.length := by
  unfold scanSymbol? at found
  split at found <;> simp only [Option.some.injEq, Prod.mk.injEq, reduceCtorEq] at found <;>
    obtain ⟨_, rfl⟩ := found <;> simp

theorem scanRun_length (c : Char) (rest : List Char) :
    (scanRun c rest).2.length ≤ rest.length := by
  unfold scanRun
  split <;> exact (List.dropWhile_sublist _).length_le

/-- A step leaves no more than the text after its first character. -/
theorem scan_rest_length (c : Char) (rest : List Char) :
    (scan c rest).2.length ≤ rest.length := by
  unfold scan
  split
  · exact (List.dropWhile_sublist _).length_le
  · split
    · exact scanSign_length _ _
    · split
      · exact scanSymbol?_length (by assumption)
      · exact scanRun_length _ _

/-! ### The whole text -/

/-- The pieces of a text from left to right. -/
def lexemes : List Char → List Lexeme
  | [] => []
  | c :: rest => (scan c rest).1 :: lexemes (scan c rest).2
termination_by text => text.length
decreasing_by
  have shorter := scan_rest_length c rest
  simp only [List.length_cons]; omega

end Lexer

/-- What a query consists of before its items are read. -/
structure TokenStream where
  tokens : List Token
  extra : Option (List Char)
  command : Option (List Char)
  deriving DecidableEq, Repr

/-- The tokens and payloads of a query. -/
def tokenize (query : String) : TokenStream :=
  let pieces := Lexer.lexemes query.toList
  { tokens := pieces.filterMap Lexeme.token?
    extra := pieces.findSome? Lexeme.extra?
    command := pieces.findSome? Lexeme.command? }

end TaskQuery
