import Mathlib.Data.Nat.Digits.Defs
import WildBuzzard.Net.Body

/-!
# The grammar of a response

What the lines of a response say, **without the parsers of the client**: a field line is a name, a
colon and a value, a list is what stands between commas, a number is the value of its digits, and
the extensions of a size line are what an automaton accepts. The parsers agree: `fieldLine_eq`,
`statusLine_eq`, `contentLength_eq`, `isChunked_eq`, `identityCoded_eq`, `chunkSize_eq` and
`mayTrail_eq`.
-/

namespace WildBuzzard.Net

open List

/-- A field line of a head or of a trailer section. -/
abbrev Field := HeaderName × HeaderValue

namespace Reference

/-! ## Bytes and numbers -/

variable (headers : Headers) (line text : List UInt8) (byte : UInt8)

/-- The bytes of a token. -/
def tokenBytes : List UInt8 :=
  ascii "!#$%&'*+-.^_`|~0123456789ABCDEFGHIJKLMNOPQRSTUVWXYZabcdefghijklmnopqrstuvwxyz"

/-- A name or a word. -/
def isToken : Bool := text ≠ [] && text.all (· ∈ tokenBytes)

/-- A byte of a field value, of a reason phrase or of a quoted string. -/
def isText : Bool := byte = 9 || (32 ≤ byte && byte ≠ 127)

/-- The value of a digit, and 16 for any other byte. -/
def digit : ℕ := (ascii "0123456789abcdef").idxOf (toAsciiLowercase byte)

/-- The value of the digits of a text. -/
def value (base : ℕ) (text : List UInt8) : ℕ := Nat.ofDigits base (text.map digit).reverse

/-- A number that fits in 64 bits. -/
def number (base : ℕ) (text : List UInt8) : Option ℕ :=
  if text ≠ [] ∧ text.all (digit · < base) ∧ value base text < 2 ^ 64 then
    some (value base text)
  else none

/-- A property of all bytes, checked byte by byte. -/
lemma forall_byte {p : UInt8 → Prop} (h : ∀ n < 256, p (UInt8.ofNat n)) (byte : UInt8) :
    p byte := by
  simpa using h byte.toNat byte.toNat_lt

lemma mem_tokenBytes : decide (byte ∈ tokenBytes) = isTokenByte byte := by
  revert byte
  exact forall_byte (by decide +kernel)

lemma isText_eq : isText byte = !isProhibitedFieldValueByte byte := by
  revert byte
  exact forall_byte (by decide +kernel)

/-- The digits of the client are digits, of the same value. -/
lemma digit_spec :
    (digit byte < 10 ↔ isAsciiDigit byte) ∧ (isAsciiDigit byte → digitValue byte = digit byte) ∧
      (digit byte < 16 ↔ isAsciiHexdigit byte) ∧
      (isAsciiHexdigit byte → hexValue byte = digit byte) := by
  revert byte
  exact forall_byte (by decide +kernel)

/-- The first digit counts most. -/
lemma value_cons (base : ℕ) (byte : UInt8) (text : List UInt8) :
    value base (byte :: text) = value base text + base ^ text.length * digit byte := by
  rw [value, map_cons, Nat.ofDigits_reverse_cons, length_map]
  rfl

/-- What a loop over digits computes that checks after each whether the number still fits. -/
lemma toOption_digits {base : ℕ} {f : List UInt8 → ℕ → Except Error ℕ} {e : Error}
    (hbase : 0 < base) (hnil : ∀ n, f [] n = .ok n) {text : List UInt8}
    (hcons : ∀ byte ∈ text, ∀ rest n, f (byte :: rest) n =
      if n * base < 2 ^ 64 ∧ n * base + digit byte < 2 ^ 64 then f rest (n * base + digit byte)
      else .error e) {n : ℕ} (hn : n < 2 ^ 64) :
    (f text n).toOption =
      if n * base ^ text.length + value base text < 2 ^ 64 then
        some (n * base ^ text.length + value base text)
      else none := by
  induction text generalizing n with
  | nil =>
    have hvalue : n * base ^ ([] : List UInt8).length + value base [] = n := by simp [value]
    rw [hnil, hvalue, if_pos hn]
    rfl
  | cons byte text ih =>
    rw [forall_mem_cons] at hcons
    have hpow := Nat.pow_pos (n := text.length) hbase
    have hsum : n * base ^ (byte :: text).length + value base (byte :: text) =
        (n * base + digit byte) * base ^ text.length + value base text := by
      rw [value_cons, length_cons]
      ring
    rw [hcons.1, hsum]
    split_ifs with hfits htotal htotal
    · rw [ih hcons.2 hfits.2, if_pos htotal]
    · rw [ih hcons.2 hfits.2, if_neg htotal]
    · have := Nat.le_mul_of_pos_right (n * base + digit byte) hpow
      exact absurd ⟨by omega, by omega⟩ hfits
    · rfl

/-- **A parser that reads digits so finds the number.** -/
theorem number_eq {base : ℕ} {isDigit : UInt8 → Bool} {f : List UInt8 → ℕ → Except Error ℕ}
    {e : Error} (hbase : 0 < base) (hdigit : ∀ byte, digit byte < base ↔ isDigit byte)
    (hnil : ∀ n, f [] n = .ok n)
    (hcons : ∀ byte, isDigit byte → ∀ rest n, f (byte :: rest) n =
      if n * base < 2 ^ 64 ∧ n * base + digit byte < 2 ^ 64 then f rest (n * base + digit byte)
      else .error e) (text : List UInt8) :
    number base text =
      if text.isEmpty || !text.all isDigit then none else (f text 0).toOption := by
  unfold number
  by_cases hall : ∀ byte ∈ text, isDigit byte
  · rw [toOption_digits hbase hnil (fun b hb => hcons b (hall b hb)) (Nat.two_pow_pos 64)]
    by_cases hempty : text = [] <;> simp_all
  · simp_all

lemma number_ten :
    number 10 text =
      if text.isEmpty || !text.all isAsciiDigit then none else (decimalValue text 0).toOption :=
  number_eq (by decide) (fun b => (digit_spec b).1) (fun _ => rfl)
    (fun b hb rest n => by rw [decimalValue, (digit_spec b).2.1 hb]) text

lemma number_sixteen :
    number 16 text = if text.isEmpty || !text.all isAsciiHexdigit then none else
      (hexadecimalValue text 0).toOption :=
  number_eq (by decide) (fun b => (digit_spec b).2.2.1) (fun _ => rfl)
    (fun b hb rest n => by rw [hexadecimalValue, (digit_spec b).2.2.2 hb]) text

/-! ## Fields -/

/-- A text without the blanks around it. -/
def strip : List UInt8 :=
  let blank (byte : UInt8) : Bool := byte = 32 || byte = 9
  ((text.dropWhile blank).reverse.dropWhile blank).reverse

/-- A name, a colon and a value; only the value may have blanks around it. -/
def fieldLine : Option Field :=
  let name := line.take (line.idxOf 58)
  let value := strip (line.drop (line.idxOf 58 + 1))
  if h : 58 ∈ line ∧ isToken name ∧ value.all isText then
    some (⟨name.map toAsciiLowercase, by simp [Function.comp_def, toAsciiLowercase_idem]⟩,
      ⟨value, by simpa [isText_eq] using h.2.2⟩)
  else none

/-- The members of a list that may be spread over several fields. -/
def members (name : String) (headers : Headers) : List (List UInt8) :=
  (headers.fields.filter (·.1.bytes = ascii name)).flatMap fun field =>
    (field.2.bytes.splitOn 44).map strip

/-- The announced length, if all that announce one agree. -/
def contentLength : Option (Option ℕ) :=
  ((members "content-length" headers).mapM (number 10)).bind fun lengths =>
    match lengths with
    | [] => some none
    | length :: others => if ∀ other ∈ others, other = length then some (some length) else none

/-- Whether the body is chunked, if no other coding is announced. -/
def isChunked : Option Bool :=
  match members "transfer-encoding" headers with
  | [] => some false
  | [coding] => if coding.map toAsciiLowercase = ascii "chunked" then some true else none
  | _ => none

/-- The body is not encoded. -/
def identityCoded : Bool :=
  (members "content-encoding" headers).all (·.map toAsciiLowercase = ascii "identity")

/-- A field that says nothing about the framing of the message. -/
def mayTrail (name : HeaderName) : Bool :=
  ["transfer-encoding", "content-length", "host", "trailer", "connection", "upgrade",
    "content-encoding"].all (name.bytes ≠ ascii ·)

/-- What follows the version: a code of three digits, a blank and a reason. -/
def statusAndReason : Option (StatusCode × List UInt8) :=
  let code := (line.drop 9).take 3
  if h : (100 ≤ value 10 code ∧ value 10 code ≤ 599) ∧ code.all (digit · < 10) ∧
      (line)[12]? = some 32 ∧ (line.drop 13).all isText then
    some (⟨value 10 code, h.1⟩, line.drop 13)
  else none

/-- A version, a code and a reason. -/
def statusLine : Option (HttpVersion × StatusCode × List UInt8) :=
  if line.take 9 = ascii "HTTP/1.0 " then (statusAndReason line).map (HttpVersion.http10, ·)
  else if line.take 9 = ascii "HTTP/1.1 " then (statusAndReason line).map (HttpVersion.http11, ·)
  else none

lemma not_isToken : (text.isEmpty || !text.all isTokenByte) = !isToken text := by
  unfold isToken
  simp only [mem_tokenBytes]
  cases text <;> simp

lemma trimOptionalWhitespace_eq : trimOptionalWhitespace text = strip text := rfl

lemma fromBytes_eq : HeaderValue.fromBytes text =
    if h : text.all isText then .ok ⟨text, by simpa [isText_eq] using h⟩
    else .error .invalidHeaderValue := by
  unfold HeaderValue.fromBytes
  by_cases h : text.any isProhibitedFieldValueByte = true
  · rw [dif_pos h, dif_neg (by simpa [isText_eq] using h)]
  · rw [dif_neg h, dif_pos (by simpa [isText_eq] using h)]

/-- A name does not begin with a blank. -/
lemma head_of_isToken {text : List UInt8} (h : isToken text) (rest : List UInt8) :
    ¬((text ++ rest).head? = some 32 ∨ (text ++ rest).head? = some 9) := by
  rcases text with - | ⟨byte, text⟩
  · cases h
  · have hbyte : byte ∈ tokenBytes := by simp_all [isToken]
    rintro (hblank | hblank) <;>
    · cases hblank
      revert hbyte
      decide +kernel

/-- **The client reads a field line as the grammar does.** -/
theorem fieldLine_eq : fieldLine line = (parseHeaderLine line).toOption := by
  unfold fieldLine parseHeaderLine HeaderName.new
  by_cases hcolon : 58 ∈ line
  · have hindex : line.idxOf? 58 = some (line.idxOf 58) :=
      findIdx?_eq_some_iff_findIdx_eq.mpr ⟨idxOf_lt_length_iff.mpr hcolon, rfl⟩
    rw [hindex, Option.elim_some, pure_bind]
    simp only [not_isToken]
    by_cases htoken : isToken (line.take (line.idxOf 58)) = true
    · have hfold := head_of_isToken htoken (line.drop (line.idxOf 58))
      rw [take_append_drop] at hfold
      rw [if_neg hfold, if_neg (by simp [htoken]), if_neg (by simp [htoken])]
      rw [trimOptionalWhitespace_eq, fromBytes_eq]
      by_cases hvalue : (strip (line.drop (line.idxOf 58 + 1))).all isText = true
      · rw [dif_pos ⟨hcolon, htoken, hvalue⟩, dif_pos hvalue]
        rfl
      · rw [dif_neg (fun h => hvalue h.2.2), dif_neg hvalue]
        rfl
    · rw [dif_neg (fun h => htoken h.2.1)]
      have hbad : (!isToken (line.take (line.idxOf 58))) = true := by simp [htoken]
      split_ifs <;> rfl
  · have hindex : line.idxOf? 58 = none := idxOf?_eq_none_iff.mpr hcolon
    rw [dif_neg (fun h => hcolon h.1), hindex]
    split_ifs <;> rfl

lemma toOption_bind {α β : Type} (x : Except Error α) (f : α → Except Error β) :
    (x >>= f).toOption = x.toOption.bind fun a => (f a).toOption := by
  cases x <;> rfl

/-- Digits are read from the left. -/
lemma foldl_digits {text : List UInt8} (h : text.all isAsciiDigit) :
    text.foldl (fun value digit => value * 10 + digitValue digit) 0 = value 10 text := by
  rw [value, Nat.ofDigits_eq_foldr, ← map_reverse, foldr_map, foldr_reverse]
  refine foldl_ext _ _ _ fun n byte hbyte => ?_
  rw [(digit_spec byte).2.1 (all_eq_true.mp h byte hbyte), add_comm, mul_comm]
  rfl

/-- The client and the grammar agree behind the version. -/
lemma statusAndReason_eq (version : HttpVersion) (line : List UInt8) :
    (statusAndReason line).map (version, ·) = Except.toOption (do
      let code := (line.drop 9).take 3
      if ¬code.all isAsciiDigit ∨ (line)[12]? ≠ some 32 then throw Error.malformedStatusLine
      let status ← StatusCode.fromWire
        (code.foldl (fun value digit => value * 10 + digitValue digit) 0)
      match HeaderValue.fromBytes (line.drop 13) with
      | .ok _ => pure (version, status, line.drop 13)
      | .error _ => throw .malformedStatusLine) := by
  unfold statusAndReason StatusCode.fromWire
  rw [fromBytes_eq]
  simp only [(digit_spec _).1, Bool.decide_eq_true]
  by_cases hcode : ¬((line.drop 9).take 3).all isAsciiDigit = true ∨ (line)[12]? ≠ some 32
  · rw [if_pos hcode, dif_neg fun h => hcode.elim (absurd h.2.1) (absurd h.2.2.1)]
    rfl
  · obtain ⟨hdigits, hblank⟩ := not_or.mp hcode
    rw [if_neg hcode]
    simp only [foldl_digits (not_not.mp hdigits)]
    by_cases hrange : 100 ≤ value 10 ((line.drop 9).take 3) ∧ value 10 ((line.drop 9).take 3) ≤ 599
    · by_cases htext : (line.drop 13).all isText = true
      · rw [dif_pos ⟨hrange, not_not.mp hdigits, not_not.mp hblank, htext⟩, dif_pos hrange,
          dif_pos htext]
        rfl
      · rw [dif_neg fun h => htext h.2.2.2, dif_pos hrange, dif_neg htext]
        rfl
    · rw [dif_neg fun h => hrange h.1, dif_neg hrange]
      rfl

/-- **The client reads a status line as the grammar does.** -/
theorem statusLine_eq : statusLine line = (parseStatusLine line).toOption := by
  unfold statusLine parseStatusLine
  by_cases hlen : line.length < 13
  · have hblank : (line)[12]? = none := getElem?_eq_none (by omega)
    have hnone : statusAndReason line = none := by simp [statusAndReason, hblank]
    rw [if_pos hlen, hnone]
    split_ifs <;> rfl
  rw [if_neg hlen, statusAndReason_eq, statusAndReason_eq]
  split_ifs <;> rfl

/-! ## Lists of members -/

lemma splitAtByte_eq (separator : UInt8) (text : List UInt8) :
    splitAtByte separator text = text.splitOn separator := by
  induction text with
  | nil => rfl
  | cons byte text ih =>
    rw [splitAtByte, ih, splitOn_cons_eq_if_modifyHead]
    cases hsplit : text.splitOn separator with
    | nil => exact absurd hsplit (splitOn_ne_nil separator text)
    | cons part parts => simp

lemma members_eq {name : String} (hname : (ascii name).map toAsciiLowercase = ascii name)
    (headers : Headers) : members name headers =
      ((headers.values name).flatMap (splitAtByte 44)).map trimOptionalWhitespace := by
  unfold members Headers.values eqIgnoreAsciiCase
  induction headers.fields with
  | nil => rfl
  | cons field fields ih =>
    simp only [filter_cons, filterMap_cons, field.1.lower, hname] at ih ⊢
    split_ifs
    · rw [flatMap_cons, flatMap_cons, map_append, ih, splitAtByte_eq]
      rfl
    · exact ih

lemma toOption_foldlM {σ α : Type} (f : σ → α → Except Error σ) (items : List α) (s : σ) :
    (items.foldlM f s).toOption = items.foldlM (fun s a => (f s a).toOption) s := by
  induction items generalizing s with
  | nil => rfl
  | cons item items ih => simp only [foldlM_cons, toOption_bind, ih]; rfl

/-- A member agrees with those before it. -/
def agree (parsed : Option ℕ) (member : List UInt8) : Option (Option ℕ) :=
  (number 10 member).bind fun length =>
    if parsed = none ∨ parsed = some length then some (some length) else none

/-- The client and the grammar agree about one more length. -/
lemma contentLengthMember_eq (parsed : Option ℕ) (member : List UInt8) :
    (contentLengthMember parsed member).toOption = agree parsed (strip member) := by
  unfold contentLengthMember agree
  rw [number_ten, trimOptionalWhitespace_eq]
  dsimp only
  split_ifs with hbad
  · rfl
  · rw [toOption_bind]
    congr 1
    funext length
    cases parsed with
    | none => rfl
    | some previous =>
      dsimp only
      by_cases h : previous = length
      · subst h
        rw [if_neg (not_not.mpr rfl), if_pos (.inr rfl)]
        rfl
      · rw [if_pos h, if_neg (by simpa using h)]
        rfl

lemma foldlM_agree (length : ℕ) (members : List (List UInt8)) :
    members.foldlM agree (some length) = (members.mapM (number 10)).bind fun others =>
      if ∀ other ∈ others, other = length then some (some length) else none := by
  induction members with
  | nil => rfl
  | cons member members ih =>
    rw [foldlM_cons, mapM_cons, agree]
    cases number 10 member with
    | none => rfl
    | some other =>
      by_cases h : length = other
      · subst h
        simp [ih, Option.bind_assoc]
      · have hne : ¬other = length := fun heq => h heq.symm
        simp [h, hne, Option.bind_assoc]

/-- **The client finds the announced length.** -/
theorem contentLength_eq : contentLength headers = (parseContentLength headers).toOption := by
  unfold contentLength parseContentLength
  rw [members_eq (by decide +kernel), toOption_foldlM]
  simp only [contentLengthMember_eq, ← trimOptionalWhitespace_eq]
  rw [← foldlM_map]
  rcases ((headers.values "content-length").flatMap (splitAtByte 44)).map trimOptionalWhitespace
    with - | ⟨member, members⟩
  · rfl
  · rw [foldlM_cons, mapM_cons, agree]
    cases number 10 member with
    | none => rfl
    | some length => simp [foldlM_agree, Option.bind_assoc]

/-- **The client finds whether the body is chunked.** -/
theorem isChunked_eq : isChunked headers = (parseTransferEncoding headers).toOption := by
  have hchunked : (ascii "chunked").map toAsciiLowercase = ascii "chunked" := by decide +kernel
  unfold isChunked parseTransferEncoding eqIgnoreAsciiCase
  rw [members_eq (by decide +kernel), hchunked]
  rcases ((headers.values "transfer-encoding").flatMap (splitAtByte 44)).map trimOptionalWhitespace
    with - | ⟨coding, - | ⟨other, codings⟩⟩
  · rfl
  · by_cases h : coding.map toAsciiLowercase = ascii "chunked" <;> simp [h, Except.toOption]
  · rfl

lemma identityCoded_eq :
    identityCoded headers = (validateContentCoding headers).toOption.isSome := by
  have hidentity : (ascii "identity").map toAsciiLowercase = ascii "identity" := by decide +kernel
  unfold identityCoded validateContentCoding eqIgnoreAsciiCase
  rw [members_eq (by decide +kernel), hidentity]
  induction (headers.values "content-encoding").flatMap (splitAtByte 44) with
  | nil => rfl
  | cons coding codings ih =>
    rw [map_cons, all_cons, ih]
    simp only [List.forM_eq_forM, List.forM_cons, toOption_bind]
    generalize trimOptionalWhitespace coding = coding
    by_cases h : coding.map toAsciiLowercase = ascii "identity"
    · have hempty : coding.isEmpty = false := by
        cases coding with
        | nil => cases h
        | cons byte text => rfl
      rw [if_neg (by simp [h, hempty]), decide_eq_true h]
      rfl
    · rw [if_pos (by simp [h]), decide_eq_false h]
      rfl

lemma mayTrail_eq (name : HeaderName) : mayTrail name = !isProhibitedTrailer name := by
  unfold mayTrail isProhibitedTrailer HeaderName.is
  rw [not_any_eq_all_not]
  simp only [decide_not]

/-! ## Chunk sizes -/

/-- Where a reader of extensions is: between two extensions, behind a semicolon, in a name, behind
an equals sign, in a value, in a quoted string or behind a backslash in one. -/
inductive Extension where
  | done | begun | name | equals | value | quoted | escaped | bad

/-- The next byte of extensions. -/
def Extension.next : Extension → UInt8 → Extension
  | .done, byte => if byte = 59 then .begun else .bad
  | .begun, byte => if byte ∈ tokenBytes then .name else .bad
  | .name, byte =>
    if byte ∈ tokenBytes then .name else if byte = 61 then .equals
    else if byte = 59 then .begun else .bad
  | .equals, byte => if byte = 34 then .quoted else if byte ∈ tokenBytes then .value else .bad
  | .value, byte => if byte ∈ tokenBytes then .value else if byte = 59 then .begun else .bad
  | .quoted, byte =>
    if byte = 34 then .done else if byte = 92 then .escaped
    else if isText byte then .quoted else .bad
  | .escaped, byte => if isText byte then .quoted else .bad
  | .bad, _ => .bad

/-- A text of extensions. -/
def Extension.accepts (state : Extension) (text : List UInt8) : Bool :=
  match text.foldl next state with
  | .done | .name | .value => true
  | _ => false

/-- The size of a chunk, with any extensions. -/
def chunkSize : Option ℕ :=
  if Extension.accepts .done (line.dropWhile (· ≠ 59)) then number 16 (line.takeWhile (· ≠ 59))
  else none

namespace Extension

lemma accepts_cons (state : Extension) (byte : UInt8) (text : List UInt8) :
    accepts state (byte :: text) = accepts (state.next byte) text := rfl

lemma accepts_bad : accepts .bad text = false := by
  induction text with
  | nil => rfl
  | cons byte text ih => exact ih

lemma text_bytes : isQuotedPairByte byte = isText byte ∧
    (byte ≠ 34 → byte ≠ 92 → isQuotedTextByte byte = isText byte) := by
  revert byte
  exact forall_byte (by decide +kernel)

lemma accepts_quoted : accepts .quoted text =
    (consumeQuotedString text).toOption.any (accepts .done) := by
  fun_induction consumeQuotedString text with
  | case1 => rfl
  | case2 rest => rfl
  | case3 => rfl
  | case4 escaped rest h ih =>
    rw [(text_bytes escaped).1] at h
    simp [accepts_cons, next, h, ih]
  | case5 escaped rest h =>
    rw [(text_bytes escaped).1] at h
    simp [accepts_cons, next, h, accepts_bad, Except.toOption]
  | case6 byte rest hquote hslash h ih =>
    rw [(text_bytes byte).2 hquote hslash] at h
    rw [accepts_cons, next, if_neg hquote, if_neg hslash, if_pos h, ih]
  | case7 byte rest hquote hslash h =>
    rw [(text_bytes byte).2 hquote hslash] at h
    rw [accepts_cons, next, if_neg hquote, if_neg hslash, if_neg h, accepts_bad]
    rfl

/-- A word has a byte and is read to its end. -/
lemma accepts_word {state : Extension} (word : Extension) {text : List UInt8}
    (hword : ∀ byte ∈ tokenBytes, word.next byte = word) (hnil : accepts state [] = false)
    (hfirst : ∀ byte ∈ text.head?, state.next byte = if byte ∈ tokenBytes then word else .bad) :
    accepts state text =
      (!(text.takeWhile isTokenByte).isEmpty && accepts word (text.dropWhile isTokenByte)) := by
  have hrest (text : List UInt8) :
      accepts word text = accepts word (text.dropWhile isTokenByte) := by
    induction text with
    | nil => rfl
    | cons byte text ih =>
      rw [dropWhile_cons, ← mem_tokenBytes, accepts_cons]
      by_cases hmem : byte ∈ tokenBytes
      · rw [hword byte hmem, if_pos (by simpa using hmem), ih]
      · rw [if_neg (by simpa using hmem)]
        rfl
  cases text with
  | nil => simp [hnil]
  | cons byte text =>
    rw [accepts_cons, hfirst byte rfl, takeWhile_cons, dropWhile_cons, ← mem_tokenBytes]
    by_cases hmem : byte ∈ tokenBytes
    · simp [hmem, hrest text]
    · simp [hmem, accepts_bad]

/-- Behind a word an extension may end. -/
lemma accepts_end {state : Extension} (hnil : accepts state [] = true) {text : List UInt8}
    (hnext : ∀ byte ∈ text.head?, state.next byte = Extension.done.next byte) :
    accepts state text = accepts .done text := by
  cases text with
  | nil => exact hnil
  | cons byte text => rw [accepts_cons, accepts_cons, hnext byte rfl]

lemma head_dropWhile {text : List UInt8} {byte : UInt8}
    (h : byte ∈ (text.dropWhile isTokenByte).head?) : byte ∉ tokenBytes := by
  have hbyte := mem_tokenBytes byte
  have hnot := head?_dropWhile_not isTokenByte text
  simp_all

lemma accepts_begun : accepts .begun text =
    (consumeChunkExtension text).toOption.any (accepts .done) := by
  unfold consumeChunkExtension
  rw [accepts_word .name (fun _ h => if_pos h) rfl (fun _ _ => rfl)]
  cases (text.takeWhile isTokenByte).isEmpty with
  | true => rfl
  | false =>
    have hhead (byte) (h : byte ∈ (text.dropWhile isTokenByte).head?) := head_dropWhile h
    revert hhead
    generalize text.dropWhile isTokenByte = rest
    intro hhead
    simp only [Bool.not_false, Bool.true_and, Bool.false_eq_true, if_false]
    split
    · exact accepts_quoted _
    · next rest hquote =>
      have hfirst : ∀ byte ∈ rest.head?,
          Extension.equals.next byte = if byte ∈ tokenBytes then .value else .bad := by
        intro byte hbyte
        obtain ⟨rest', rfl⟩ := head?_eq_some_iff.mp hbyte
        exact if_neg fun h => hquote rest' (by rw [h])
      change accepts .equals rest = _
      rw [accepts_word .value (fun _ h => if_pos h) rfl hfirst]
      cases (rest.takeWhile isTokenByte).isEmpty with
      | true => rfl
      | false => exact accepts_end rfl fun byte hbyte => if_neg (head_dropWhile hbyte)
    · next hquote hequals =>
      refine accepts_end rfl fun byte hbyte => (if_neg (hhead byte hbyte)).trans ?_
      obtain ⟨rest', rfl⟩ := head?_eq_some_iff.mp hbyte
      exact if_neg fun h => hequals rest' (by rw [h])

lemma length_consumeQuotedString {text left : List UInt8}
    (h : consumeQuotedString text = .ok left) : left.length ≤ text.length := by
  fun_induction consumeQuotedString text with
  | case1 | case3 | case5 | case7 => simp at h
  | case2 rest => cases h; simp
  | case4 escaped rest _ ih | case6 escaped rest _ _ _ ih =>
    have := ih h
    simp only [length_cons]
    omega

lemma length_consumeChunkExtension {text left : List UInt8}
    (h : consumeChunkExtension text = .ok left) : left.length ≤ text.length := by
  have hdrop (text : List UInt8) : (text.dropWhile isTokenByte).length ≤ text.length :=
    (dropWhile_suffix _).length_le
  unfold consumeChunkExtension at h
  have htext := hdrop text
  split_ifs at h
  split at h
  · next rest hrest =>
    have := length_consumeQuotedString h
    rw [hrest] at htext
    simp at htext
    omega
  · next rest _ hrest =>
    split_ifs at h
    cases h
    have := hdrop rest
    rw [hrest] at htext
    simp at htext
    omega
  · cases h
    exact htext

lemma accepts_done {fuel : ℕ} {text : List UInt8} (hfuel : text.length ≤ fuel) :
    accepts .done text = (validateChunkExtensionsLoop fuel text).toOption.isSome := by
  induction fuel generalizing text with
  | zero =>
    cases eq_nil_of_length_eq_zero (Nat.le_zero.mp hfuel)
    rfl
  | succ fuel ih =>
    cases text with
    | nil => rfl
    | cons byte text =>
      rw [accepts_cons, validateChunkExtensionsLoop, next]
      by_cases hsemi : byte = 59
      · rw [if_neg (not_not.mpr hsemi), if_pos hsemi, accepts_begun, toOption_bind]
        cases hleft : consumeChunkExtension text with
        | error e => rfl
        | ok left =>
          have := length_consumeChunkExtension hleft
          exact ih (by simp at hfuel; omega)
      · rw [if_pos hsemi, if_neg hsemi, accepts_bad]
        rfl

end Extension

/-- **The client finds the size of a chunk.** -/
theorem chunkSize_eq : chunkSize line = (parseChunkSize line).toOption := by
  unfold chunkSize parseChunkSize validateChunkExtensions
  rw [Extension.accepts_done le_rfl, number_sixteen]
  dsimp only
  split_ifs with hvalid hsize hsize
  · rfl
  · rw [toOption_bind]
    cases hextensions : validateChunkExtensionsLoop _ _ with
    | error e => rw [hextensions] at hvalid; cases hvalid
    | ok u => cases hexadecimalValue _ 0 <;> rfl
  · rfl
  · rw [toOption_bind]
    cases hextensions : validateChunkExtensionsLoop _ _ with
    | error e => cases hexadecimalValue _ 0 <;> rfl
    | ok u => rw [hextensions] at hvalid; exact absurd rfl hvalid

end Reference

end WildBuzzard.Net
