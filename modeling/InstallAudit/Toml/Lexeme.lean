import InstallAudit.Document
import InstallAudit.Text.Reader

/-!
# The lexemes of TOML

Readers of the parts of a TOML text that hold no other values.

* `blanks`, `newline?`, `comment`, `gap` — what stands between the values.
* `keyPart?`, `quotedString?`, `anyString?` — keys and strings.
* `integer?`, `float?` — numbers.
* `moment?` — dates, times and their combinations.
* `scalar?` — any value that holds no other values.
-/

namespace InstallAudit.Toml

open Reader (before mark? word? charOf? hexDigit? hexNumber? valueOf)

/-! ## Between the values -/

def isSpace (c : Char) : Bool :=
  c == ' ' || c == '\t'

/-- The text behind its leading spaces and tabs. -/
def blanks (t : Text) : Text :=
  t.dropWhile isSpace

/-- Whether a character may stand in a comment or a string as itself: no control but the tab. -/
def isPlain (c : Char) : Bool :=
  c == '\t' || (0x20 ≤ c.toNat && c.toNat ≠ 0x7F)

/-- The text behind a line end. -/
def newline? : Text → Option Text
  | '\n' :: t => some t
  | '\r' :: '\n' :: t => some t
  | _ => none

/-- The text behind a comment, if one stands in front. -/
def comment (t : Text) : Text :=
  match t with
  | '#' :: t => t.dropWhile isPlain
  | t => t

/-- The text behind the rest of a line: blanks, a comment, and a line end or the end of the
text. -/
def lineRest? (t : Text) : Option Text :=
  match comment (blanks t) with
  | [] => some []
  | t => newline? t

theorem length_dropWhile_le (p : Char → Bool) (t : Text) :
    (t.dropWhile p).length ≤ t.length :=
  (List.dropWhile_suffix p).length_le

theorem length_of_newline? {t rest : Text} (h : newline? t = some rest) :
    rest.length < t.length := by
  unfold newline? at h
  split at h
  · simp only [Option.some.injEq] at h
    subst h
    exact Nat.lt_succ_self _
  · simp only [Option.some.injEq] at h
    subst h
    exact Nat.lt_trans (Nat.lt_succ_self _) (Nat.lt_succ_self _)
  · cases h

theorem length_comment_le (t : Text) : (comment t).length ≤ t.length := by
  unfold comment
  split
  · exact Nat.le_trans (length_dropWhile_le _ _) (by simp)
  · exact Nat.le_refl _

/-- The text behind blanks, line ends and comments. -/
def gap (t : Text) : Text :=
  match h : newline? (comment (blanks t)) with
  | some rest =>
    have : rest.length < t.length :=
      Nat.lt_of_lt_of_le (length_of_newline? h)
        (Nat.le_trans (length_comment_le _) (length_dropWhile_le _ _))
    gap rest
  | none => blanks t
termination_by t.length

/-! ## Strings -/

/-- The character that a letter behind a backslash stands for. -/
def escapeOf? : Char → Option Char
  | 'b' => some '\x08'
  | 't' => some '\t'
  | 'n' => some '\n'
  | 'f' => some '\x0C'
  | 'r' => some '\r'
  | '"' => some '"'
  | '\\' => some '\\'
  | _ => none

/-- An escape, read behind its backslash. -/
def escape? : Reader Char
  | 'u' :: t => do
    if t.length < 4 then none
    else some (← charOf? (← hexNumber? (t.take 4)), t.drop 4)
  | 'U' :: t => do
    if t.length < 8 then none
    else some (← charOf? (← hexNumber? (t.take 8)), t.drop 8)
  | c :: t => (escapeOf? c).map (·, t)
  | [] => none

theorem length_of_escape? {t : Text} {r : Char × Text} (h : escape? t = some r) :
    r.2.length < t.length := by
  unfold escape? at h
  split at h
  · split at h
    · simp at h
    · simp only [Option.bind_eq_bind, Option.bind_eq_some_iff] at h
      obtain ⟨_, _, _, _, h⟩ := h
      simp only [Option.some.injEq] at h
      subst h
      simp only [List.length_drop, List.length_cons]
      omega
  · split at h
    · simp at h
    · simp only [Option.bind_eq_bind, Option.bind_eq_some_iff] at h
      obtain ⟨_, _, _, _, h⟩ := h
      simp only [Option.some.injEq] at h
      subst h
      simp only [List.length_drop, List.length_cons]
      omega
  · simp only [Option.map_eq_some_iff] at h
    obtain ⟨_, _, h⟩ := h
    subst h
    simp
  · simp at h

/-- The rest of a string between single double quotes. -/
def basicBody? (t : Text) : Option (Text × Text) :=
  match t with
  | [] => none
  | '"' :: t => some ([], t)
  | '\\' :: t =>
    match h : escape? t with
    | some (c, rest) =>
      have := length_of_escape? h
      (basicBody? rest).map (before c)
    | none => none
  | c :: t => if isPlain c then (basicBody? t).map (before c) else none
termination_by t.length
decreasing_by all_goals simp_all <;> omega

/-- The rest of a string between single apostrophes. -/
def literalBody? : Text → Option (Text × Text)
  | [] => none
  | '\'' :: t => some ([], t)
  | c :: t => if isPlain c then (literalBody? t).map (before c) else none

/-- The text behind a line end in a string, and behind all blanks and line ends that follow it,
if the text starts with blanks and a line end. -/
def folded? (t : Text) : Option Text :=
  (newline? (blanks t)).map fun rest => gapLines rest
where
  /-- The text behind blanks and line ends. -/
  gapLines (t : Text) : Text :=
    match h : newline? (blanks t) with
    | some rest =>
      have : rest.length < t.length :=
        Nat.lt_of_lt_of_le (length_of_newline? h) (length_dropWhile_le _ _)
      gapLines rest
    | none => blanks t
  termination_by t.length

theorem length_gapLines_le (t : Text) : (folded?.gapLines t).length ≤ t.length := by
  fun_induction folded?.gapLines t with
  | case1 t rest h lt ih => omega
  | case2 t h => exact length_dropWhile_le _ _

theorem length_of_folded? {t rest : Text} (h : folded? t = some rest) :
    rest.length < t.length := by
  simp only [folded?, Option.map_eq_some_iff] at h
  obtain ⟨a, ha, rfl⟩ := h
  have h₁ := length_of_newline? ha
  have h₂ := length_dropWhile_le isSpace t
  have h₃ := length_gapLines_le a
  simp only [blanks] at h₁
  omega

/-- The rest of a string between three double quotes.  Up to two quotes may stand directly in
front of the closing three; a backslash at the end of a line folds it into the next one. -/
def longBasicBody? (t : Text) : Option (Text × Text) :=
  match t with
  | [] => none
  | '"' :: '"' :: '"' :: '"' :: '"' :: t => some (['"', '"'], t)
  | '"' :: '"' :: '"' :: '"' :: t => some (['"'], t)
  | '"' :: '"' :: '"' :: t => some ([], t)
  | '\\' :: t =>
    match h : folded? t with
    | some rest =>
      have := length_of_folded? h
      longBasicBody? rest
    | none =>
      match h : escape? t with
      | some (c, rest) =>
        have := length_of_escape? h
        (longBasicBody? rest).map (before c)
      | none => none
  | '\r' :: '\n' :: t => (longBasicBody? t).map (before '\n')
  | c :: t => if isPlain c || c == '\n' then (longBasicBody? t).map (before c) else none
termination_by t.length
decreasing_by all_goals simp_all <;> omega

/-- The rest of a string between three apostrophes. -/
def longLiteralBody? : Text → Option (Text × Text)
  | [] => none
  | '\'' :: '\'' :: '\'' :: '\'' :: '\'' :: t => some (['\'', '\''], t)
  | '\'' :: '\'' :: '\'' :: '\'' :: t => some (['\''], t)
  | '\'' :: '\'' :: '\'' :: t => some ([], t)
  | '\r' :: '\n' :: t => (longLiteralBody? t).map (before '\n')
  | c :: t => if isPlain c || c == '\n' then (longLiteralBody? t).map (before c) else none

/-- A string on one line. -/
def quotedString? : Reader Text
  | '"' :: t => basicBody? t
  | '\'' :: t => literalBody? t
  | _ => none

/-- A string, on one line or on several.  A line end directly behind the opening quotes of a
string on several lines does not count. -/
def anyString? : Reader Text
  | '"' :: '"' :: '"' :: t => longBasicBody? ((newline? t).getD t)
  | '\'' :: '\'' :: '\'' :: t => longLiteralBody? ((newline? t).getD t)
  | t => quotedString? t

/-! ## Keys -/

/-- Whether a character may stand in a key without quotes. -/
def isBare (c : Char) : Bool :=
  c.isAlphanum || c == '-' || c == '_'

/-- One part of a key. -/
def keyPart? (t : Text) : Option (Text × Text) :=
  match t with
  | '"' :: _ => quotedString? t
  | '\'' :: _ => quotedString? t
  | _ =>
    match t.span isBare with
    | ([], _) => none
    | (key, rest) => some (key, rest)

/-! ## Numbers -/

/-- Digits with single underscores between them, read behind a digit; the underscores are left
out. -/
def moreDigits (isDigit : Char → Bool) : Text → Text × Text
  | '_' :: c :: t =>
    if isDigit c then before c (moreDigits isDigit t) else ([], '_' :: c :: t)
  | c :: t => if isDigit c then before c (moreDigits isDigit t) else ([], c :: t)
  | [] => ([], [])

/-- At least one digit, and more with single underscores between them. -/
def digits? (isDigit : Char → Bool) : Reader Text
  | c :: t => if isDigit c then some (before c (moreDigits isDigit t)) else none
  | [] => none

/-- The digits of a decimal integer: a lone zero, or digits that start with another one. -/
def decimal? : Reader Text
  | '0' :: t => some (['0'], t)
  | t => digits? Char.isDigit t

def sign : Text → Bool × Text
  | '-' :: t => (true, t)
  | '+' :: t => (false, t)
  | t => (false, t)

/-- An integer, if it has 64 bits with its sign. -/
def sized? (n : Int) : Option Document :=
  if -0x8000000000000000 ≤ n ∧ n ≤ 0x7FFFFFFFFFFFFFFF then some (.integer n) else none

/-- An integer in one of the bases 16, 8 and 2, read behind its mark. -/
def based? (base : Nat) (t : Text) : Option (Document × Text) := do
  let (ds, rest) ← digits? (fun c => (hexDigit? c).any (· < base)) t
  some (← sized? (valueOf base ds), rest)

def integer? : Reader Document
  | '0' :: 'x' :: t => based? 16 t
  | '0' :: 'o' :: t => based? 8 t
  | '0' :: 'b' :: t => based? 2 t
  | t => do
    let (negative, t) := sign t
    let (ds, rest) ← decimal? t
    let n : Int := valueOf 10 ds
    some (← sized? (if negative then -n else n), rest)

/-- The exponent of a floating point number, with its mark. -/
def exponent? : Reader Int
  | c :: t =>
    if c = 'e' ∨ c = 'E' then do
      let (negative, t) := sign t
      let (ds, rest) ← digits? Char.isDigit t
      let n : Int := valueOf 10 ds
      some (if negative then -n else n, rest)
    else none
  | [] => none

/-- The digits behind a decimal point, with the point. -/
def fraction? : Reader Text
  | '.' :: t => digits? Char.isDigit t
  | _ => none

/-- The infinities and what is not a number. -/
def specialFloat? (negative : Bool) : Reader Binary64
  | 'i' :: 'n' :: 'f' :: t => some (.infinite negative, t)
  | 'n' :: 'a' :: 'n' :: t => some (.nan, t)
  | _ => none

/-- A floating point number: an integer with a fraction, an exponent or both, or a special one.
Positive numbers beyond the range of the format are refused. -/
def float? (t : Text) : Option (Document × Text) :=
  let (negative, t) := sign t
  match specialFloat? negative t with
  | some (x, rest) => some (.float x, rest)
  | none => do
    let (whole, t) ← decimal? t
    let (frac, scale, rest) ←
      match fraction? t with
      | some (frac, t) =>
        match exponent? t with
        | some (e, rest) => some (frac, e, rest)
        | none => some (frac, 0, t)
      | none => (exponent? t).map fun (e, rest) => ([], e, rest)
    let x := Binary64.ofDecimal negative (valueOf 10 (whole ++ frac)) (scale - frac.length)
    if x = .infinite false then none else some (.float x, rest)

/-! ## Moments -/

/-- Exactly so many digits, as a number between two bounds. -/
def field? (width lo hi : Nat) (t : Text) : Option (Nat × Text) :=
  let ds := t.take width
  let n := valueOf 10 ds
  if ds.length = width ∧ ds.all Char.isDigit ∧ lo ≤ n ∧ n ≤ hi then some (n, t.drop width)
  else none

/-- The number of days of a month. -/
def daysIn (year month : Nat) : Nat :=
  if month = 2 then
    if year % 4 = 0 ∧ (year % 100 ≠ 0 ∨ year % 400 = 0) then 29 else 28
  else if month = 4 ∨ month = 6 ∨ month = 9 ∨ month = 11 then 30
  else 31

def date? (t : Text) : Option Text := do
  let (year, t) ← field? 4 0 9999 t
  let (month, t) ← field? 2 1 12 (← mark? '-' t)
  let (_, t) ← field? 2 1 (daysIn year month) (← mark? '-' t)
  some t

def time? (t : Text) : Option Text := do
  let (_, t) ← field? 2 0 23 t
  let (_, t) ← field? 2 0 59 (← mark? ':' t)
  let (_, t) ← field? 2 0 60 (← mark? ':' t)
  match t with
  | '.' :: c :: rest => if c.isDigit then some (rest.dropWhile Char.isDigit) else some t
  | _ => some t

/-- The text behind an offset from universal time. -/
def offset? (t : Text) : Option Text :=
  match t with
  | 'Z' :: t => some t
  | 'z' :: t => some t
  | c :: t =>
    if c = '+' ∨ c = '-' then do
      let (_, t) ← field? 2 0 23 t
      let (_, t) ← field? 2 0 59 (← mark? ':' t)
      some t
    else none
  | [] => none

/-- The text behind a time that follows a date, with its separator. -/
def timeOfDay? (t : Text) : Option Text :=
  match t with
  | c :: t => if c = 'T' ∨ c = 't' ∨ c = ' ' then time? t else none
  | [] => none

/-- The text behind a date, a time, or a date with a time and perhaps an offset. -/
def momentRest? (t : Text) : Option Text :=
  match date? t with
  | some t =>
    match timeOfDay? t with
    | some t => some ((offset? t).getD t)
    | none => some t
  | none => time? t

/-- A moment in time, as it is written. -/
def moment? (t : Text) : Option (Document × Text) :=
  (momentRest? t).map fun rest => (.datetime (t.take (t.length - rest.length)), rest)

/-! ## Values without parts -/

/-- A value that holds no other values. -/
def scalar? (t : Text) : Option (Document × Text) :=
  match t with
  | [] => none
  | c :: _ =>
    if c = '"' ∨ c = '\'' then (anyString? t).map fun (s, rest) => (.string s, rest)
    else if c = 't' then (word? "true" t).map (.boolean true, ·)
    else if c = 'f' then (word? "false" t).map (.boolean false, ·)
    else (moment? t).or ((float? t).or (integer? t))

end InstallAudit.Toml
