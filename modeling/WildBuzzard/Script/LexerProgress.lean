import WildBuzzard.Script.Lexer

/-!
# The lexer always returns

`Lexer.tokenize_sat`: on every text the lexer returns tokens or an error. **No slice is cut inside a
character, and no loop runs beyond its bound**: every method stays on a character boundary
(`Reads`), and every round of a loop that goes on has taken a character (`Call.Uses` with the number
of characters left as measure).

The tokens that are returned end with the end of the input, which occurs nowhere else
(`EndsInput`); the parser relies on it.
-/

namespace WildBuzzard.Script

open Lib Call Round

namespace Lexer

variable {host : Host} {source : List Char} {start : Nat} {l : Lexer}

/-! ## Where the lexer stands -/

variable {c : Char} {from₀ : SourceLocation} {P : Lexer → Prop} {p : Char → Bool}

/-- The lexer stands on a character boundary at or after `start`, which is one too. -/
structure Reads (source : List Char) (start : Nat) (l : Lexer) : Prop where
  origin : IsBoundary source start
  boundary : IsBoundary source l.offset
  start_le : start ≤ l.offset

/-- The next character is `c`. -/
def Looking (source : List Char) (start : Nat) (c : Char) (l : Lexer) : Prop :=
  Reads source start l ∧ ∃ before after, source = before ++ c :: after ∧
    byteLen before = l.offset

/-- There is a next character if a peek has shown one. -/
def Seen (source : List Char) (start : Nat) : Option Char → Lexer → Prop
  | none => Reads source start
  | some c => Looking source start c

/-- The number of characters left. -/
def left (source : List Char) (l : Lexer) : Nat :=
  ((splitAtByte source l.offset).elim [] (·.2)).length

lemma reads_new : Reads source 0 .new := ⟨.zero source, .zero source, le_rfl⟩

lemma left_of_split {before after : List Char} (h : byteLen before = l.offset) :
    left (before ++ after) l = after.length := by
  rw [left, ← h, splitAtByte_append]
  rfl

lemma Reads.left_le (h : Reads source start l) : left source l ≤ source.length := by
  obtain ⟨before, after, rfl, hoffset⟩ := h.boundary
  rw [left_of_split hoffset, List.length_append]
  omega

/-- Where the lexer stands is a place to start from. -/
lemma Reads.here (h : Reads source start l) : Reads source l.offset l :=
  ⟨h.boundary, h.boundary, le_rfl⟩

lemma Reads.trans {later : Lexer} (h : Reads source start l)
    (hlater : Reads source l.offset later) : Reads source start later :=
  ⟨h.origin, hlater.boundary, Nat.le_trans h.start_le hlater.start_le⟩

lemma Looking.here (h : Looking source start c l) : ∀ s, s = l → Looking source l.offset c s := by
  rintro s rfl
  exact ⟨h.1.here, h.2⟩

lemma Seen.reads {next : Option Char} (h : Seen source start next l) : Reads source start l := by
  cases next with
  | none => exact h
  | some c => exact h.1

@[simp] lemma past_offset (c : Char) : (l.past c).offset = l.offset + c.utf8Size := by
  unfold past
  split_ifs <;> rfl

/-- A character further. -/
lemma Looking.past (h : Looking source start c l) :
    Reads source start (l.past c) ∧ left source (l.past c) + 1 = left source l := by
  obtain ⟨hreads, before, after, rfl, hoffset⟩ := h
  have hnext : byteLen (before ++ [c]) = (l.past c).offset := by
    rw [past_offset, byteLen_append, hoffset]
    simp
  have hsplit : before ++ c :: after = before ++ [c] ++ after := by simp
  refine ⟨⟨hreads.origin, ⟨before ++ [c], after, hsplit, hnext⟩, ?_⟩, ?_⟩
  · have := hreads.start_le
    rw [past_offset]
    omega
  · rw [left_of_split hoffset, hsplit, left_of_split hnext, List.length_cons]

/-! ## Single steps -/

/-- A method that does not halt, and takes as many characters as the value it returns says. -/
abbrev Takes {α : Type} (source : List Char) (P : Lexer → Prop) (m : LexerM α)
    (Q : α → Lexer → Prop) (gain : α → Nat) : Prop :=
  Call.Uses (left source) P m Q gain

/-- A method that stays on character boundaries. -/
abbrev Stays {α : Type} (source : List Char) (start : Nat) (m : LexerM α) : Prop :=
  Takes source (Reads source start) m (fun _ => Reads source start) (fun _ => 0)

/-- A method that takes the character that has been seen. -/
abbrev TakesOne {α : Type} (source : List Char) (start : Nat) (c : Char) (m : LexerM α) : Prop :=
  Takes source (Looking source start c) m (fun _ => Reads source start) (fun _ => 1)

/-- A slice to the end succeeds, and shows what is ahead. -/
lemma remaining_sat {Q : List Char → Lexer → Prop} (h : Reads source start l)
    (hQ : ∀ before after, source = before ++ after → byteLen before = l.offset → Q after l) :
    (remaining source l).Ends Q (fun _ _ => True) := by
  obtain ⟨before, after, hcut, hsplit, hoffset⟩ := exists_splitText h.boundary
  unfold remaining
  rw [hcut]
  exact hQ before after hsplit hoffset

lemma textSince_takes : Stays source start (textSince source start) := by
  intro l h
  obtain ⟨_, piece, _, hpiece, -⟩ := exists_slice h.origin h.boundary h.start_le
  unfold textSince
  rw [hpiece]
  exact ⟨h, le_rfl⟩

lemma peek_takes : Takes source (Reads source start) (peek source) (Seen source start)
    (fun _ => 0) := by
  intro l h
  refine sat_bind.mpr (remaining_sat h fun before after hsplit hoffset => ⟨?_, le_rfl⟩)
  cases after with
  | nil => exact h
  | cons c after => exact ⟨h, before, after, hsplit, hoffset⟩

/-- A second look leaves things as they are. -/
lemma peekSecond_takes (hP : ∀ s, P s → Reads source start s) :
    Takes source P (peekSecond source) (fun _ => P) (fun _ => 0) := by
  intro l h
  exact sat_bind.mpr (remaining_sat (hP l h) fun _ _ _ _ => ⟨h, le_rfl⟩)

/-- A step over a character that has been seen. -/
lemma bump_takes : TakesOne source start c (bump source) := by
  intro l h
  obtain ⟨hreads, hleft⟩ := h.past
  obtain ⟨hstart, before, after, hsplit, hoffset⟩ := h
  refine sat_bind.mpr (sat_bind.mpr (remaining_sat hstart fun b a hs ho => ?_))
  have hahead : a = c :: after := by
    have hcut := splitText_append b a
    rw [← hs, ho, ← hoffset, hsplit, splitText_append] at hcut
    exact (congrArg Prod.snd (Except.ok.inj hcut)).symm
  rw [hahead]
  exact ⟨hreads, Nat.le_of_eq hleft⟩

/-- A step over the next character, if there is one. -/
lemma bump_any : Stays source start (bump source) := by
  refine Uses.bind peek_takes fun next => ?_
  cases next with
  | none => exact .pure (fun _ h => h) rfl
  | some c =>
    intro l h
    obtain ⟨hreads, hleft⟩ := h.past
    exact ⟨hreads, by dsimp only; omega⟩

variable {at₀ : SourceLocation}

lemma token_takes {kind : TokenKind} :
    Takes source P (token at₀ kind) (fun t s => P s ∧ t.kind = kind) (fun _ => 0) :=
  fun _ h => ⟨⟨h, rfl⟩, le_rfl⟩

lemma issueSince_takes {α : Type} {message : String} {Q : α → Lexer → Prop} {gain : α → Nat} :
    Takes source P (issueSince message at₀) Q gain := fun _ _ => trivial

lemma consume_takes {expected : Char} : Stays source start (consume source expected) := by
  refine Uses.bind peek_takes fun next => .ite (fun _ => ?_) fun _ => ?_
  · exact .bind (bump_any.pre fun _ h => h.reads) fun _ => .pure (fun _ h => h) rfl
  · exact .pure (fun _ h => h.reads) rfl

/-! ## Loops over characters -/

/-- The bound of the lexer's loops. -/
lemma Reads.left_lt (h : Reads source start l) : left source l < source.length + 1 :=
  Nat.lt_succ_of_le h.left_le

/-- A loop of the lexer that stays on character boundaries. -/
lemma iterate_takes {α β : Type} {body : α → LexerM (Round α β)} {Q : β → Lexer → Prop}
    (hround : ∀ a, Takes source (Reads source start) (body a)
      (Leads (fun _ => Reads source start) Q) gain) (a : α) :
    Takes source (Reads source start) (iterate body (source.length + 1) a) Q (fun _ => 0) :=
  (Uses.iterate (Q := fun _ => Reads source start) hround _ a).pre fun _ h => ⟨h, h.left_lt⟩

lemma bumpRound_takes : Takes source (Reads source start) (bumpRound source p)
    (Leads (fun _ => Reads source start) fun _ => Reads source start) gain := by
  refine .bind peek_takes fun next => .ite (fun hnext => ?_) fun _ => ?_
  · cases next with
    | none => simp at hnext
    | some c => exact .bind bump_takes fun _ => .pure (fun _ h => h) rfl
  · exact .pure (fun _ h => h.reads) rfl

lemma bumpWhile_takes : Stays source start (bumpWhile source p) :=
  iterate_takes (fun _ => bumpRound_takes) ()

lemma blockComment_takes : Stays source start
    (iterate (fun _ => blockCommentRound source from₀) (source.length + 1) ()) := by
  refine iterate_takes (fun _ => Uses.bind peek_takes fun next =>
    .bind (peekSecond_takes fun _ h => h.reads) fun _ => ?_) ()
  refine .ite (fun _ => ?_) fun _ => .ite (fun hnext => ?_) fun _ => issueSince_takes
  · refine .bind (bump_any.pre fun _ h => h.reads) fun _ => .bind bump_any fun _ => ?_
    exact .pure (fun _ h => h) rfl
  · obtain ⟨c, rfl⟩ := Option.isSome_iff_exists.mp hnext
    exact .bind bump_takes fun _ => .pure (fun _ h => h) rfl

lemma triviaRound_takes : Takes source (Reads source start) (triviaRound source)
    (fun _ => Reads source start) gain := by
  refine .bind bumpWhile_takes fun _ => .bind peek_takes fun first => ?_
  refine .ite (fun _ => .pure (fun _ h => h.reads) rfl) fun hfirst => ?_
  obtain rfl := Decidable.not_not.mp hfirst
  refine .bind (peekSecond_takes fun _ h => h.1) fun second => .ite (fun _ => ?_) fun _ =>
    .ite (fun _ => ?_) fun _ => .pure (fun _ h => h.1) rfl
  · -- a line comment: its two slashes are taken
    refine .bind bump_takes fun _ => .bind bump_any fun _ => .bind bumpWhile_takes fun _ => ?_
    exact .pure (fun _ h => h) rfl
  · refine .read fun l hl => .bind (bump_takes.pre fun _ heq => heq ▸ hl) fun _ => ?_
    refine .bind bump_any fun _ => .bind blockComment_takes fun _ => ?_
    exact .pure (fun _ h => h) rfl

lemma skipTrivia_takes : Stays source start (skipTrivia source) := by
  refine iterate_takes (fun _ => triviaRound_takes.weaken (fun _ h => h) (fun round _ h => ?_)
    fun _ => le_rfl) ()
  cases round <;> exact h

/-! ## Names and numbers -/

/-- A method that works on the text since the place it starts at. -/
lemma read_takes {α : Type} {f : Lexer → LexerM α} {gain : α → Nat}
    (hP : ∀ s, P s → Reads source start s)
    (hf : ∀ l, P l → Takes source (fun s => s = l) (f l) (fun _ => Reads source l.offset) gain) :
    Takes source P (read >>= f) (fun _ => Reads source start) gain := by
  refine .read fun l hl => (hf l hl).weaken (fun _ h => h) (fun _ s hs => ?_)
    fun _ => le_rfl
  exact (hP l hl).trans hs

lemma identifier_takes : TakesOne source start c (identifier host source from₀) := by
  refine read_takes (fun _ h => h.1) fun l hl => ?_
  refine .bind (bump_takes.pre hl.here) fun _ => ?_
  refine .bind bumpWhile_takes fun _ => .bind textSince_takes fun _ => ?_
  exact token_takes.weaken (fun _ h => h) (fun _ _ h => h.1) fun _ => le_rfl

lemma radixNumber_takes {radix : Nat} :
    TakesOne source start c (radixNumber host source from₀ radix) := by
  refine .bind bump_takes fun _ => .bind bump_any fun _ => read_takes (fun _ h => h) fun l hl => ?_
  have hhere : ∀ s, s = l → Reads source l.offset s := by
    rintro s rfl
    exact hl.here
  refine .bind (bumpWhile_takes.pre hhere) fun _ => .read fun l' hl' => ?_
  refine .bind (peek_takes.pre fun _ heq => heq ▸ hl') fun next => ?_
  refine .ite (fun _ => issueSince_takes) fun _ => ?_
  refine .bind (textSince_takes.pre fun _ h => h.reads) fun text => ?_
  cases parseRadixNumber host text radix with
  | none => exact issueSince_takes
  | some value => exact token_takes.weaken (fun _ h => h) (fun _ _ h => h.1) fun _ => le_rfl

lemma exponentDigits_takes : Stays source start (exponent.exponentDigits source from₀) := by
  refine .read fun l hl => .bind (bumpWhile_takes.pre fun _ heq => heq ▸ hl) fun _ => ?_
  refine .read fun l' hl' => .ite (fun _ => issueSince_takes) fun _ => ?_
  exact .pure (fun _ heq => heq ▸ hl') rfl

lemma exponent_takes : Stays source start (exponent source from₀) := by
  refine .bind peek_takes fun next => .ite (fun _ => ?_) fun _ => .pure (fun _ h => h.reads) rfl
  refine .bind (bump_any.pre fun _ h => h.reads) fun _ => .bind peek_takes fun sign => ?_
  refine .ite (fun _ => ?_) fun _ => exponentDigits_takes.pre fun _ h => h.reads
  exact .bind (bump_any.pre fun _ h => h.reads) fun _ => exponentDigits_takes

lemma fraction_takes : Stays source start (fraction source) := by
  refine .bind peek_takes fun next => .ite (fun _ => ?_) fun _ => .pure (fun _ h => h.reads) rfl
  exact .bind (bump_any.pre fun _ h => h.reads) fun _ => bumpWhile_takes

/-! A decimal literal starts with a digit or with a point before a digit; either is taken. -/

/-- The first look of a method shows the character that has been seen. -/
lemma peek_of_looking (h : Looking source start c l) : peek source l = .ok (some c) l := by
  obtain ⟨-, before, after, rfl, hoffset⟩ := h
  have hremaining : remaining (before ++ c :: after) l = .ok (c :: after) l := by
    rw [remaining, ← hoffset, splitText_append]
  exact bind_of_ok hremaining

lemma bump_of_looking (h : Looking source start c l) : bump source l = .ok (some c) (l.past c) :=
  bind_of_ok (peek_of_looking h)

/-- Characters that satisfy the test are taken, the first one to begin with. -/
lemma bumpWhile_takes_one (hc : p c = true) : TakesOne source start c (bumpWhile source p) := by
  intro l hl
  obtain ⟨hreads, hleft⟩ := hl.past
  have hround : bumpRound source p l = .ok (.next ()) (l.past c) := by
    rw [bumpRound, bind_of_ok (peek_of_looking hl)]
    simp only [Option.any_some, hc, if_true]
    exact bind_of_ok (bump_of_looking hl)
  have hbound : left source (l.past c) < source.length := by
    have := hl.1.left_lt
    omega
  rw [bumpWhile, iterate_of_next hround]
  have hrest := Uses.iterate (Q := fun _ => Reads source start)
    (fun _ => bumpRound_takes (p := p)) source.length ()
  refine (hrest _ ⟨hreads, hbound⟩).imp fun _ t ht => ⟨ht.1, ?_⟩
  show left source t + 1 ≤ left source l
  omega

lemma bumpWhile_stays (hc : p c = false)
    (h : Looking source start c l) : bumpWhile source p l = .ok () l := by
  refine iterate_of_done ?_
  rw [bumpRound, bind_of_ok (peek_of_looking h)]
  simp [hc]

lemma fraction_takes_one : TakesOne source start '.' (fraction source) := by
  intro l hl
  rw [fraction, bind_of_ok (peek_of_looking hl), if_pos rfl]
  have htakes : TakesOne source start '.'
      (bump source >>= fun _ => bumpWhile source isAsciiDigit) :=
    .bind bump_takes fun _ => bumpWhile_takes
  exact htakes l hl

section

variable (hc : isAsciiDigit c = true ∨ c = '.')
include hc

lemma mantissa_takes_one : TakesOne source start c (mantissa source) := by
  by_cases hdigit : isAsciiDigit c = true
  · exact .bind (bumpWhile_takes_one hdigit) fun _ => fraction_takes
  · obtain rfl := hc.resolve_left hdigit
    intro l hl
    rw [mantissa, bind_of_ok (bumpWhile_stays (by decide) hl)]
    exact fraction_takes_one l hl

lemma decimalNumber_takes : TakesOne source start c (decimalNumber host source from₀) := by
  refine read_takes (fun _ h => h.1) fun l hl => ?_
  refine .bind ((mantissa_takes_one hc).pre hl.here) fun _ => .bind exponent_takes fun _ => ?_
  refine .bind peek_takes fun next => .ite (fun _ => issueSince_takes) fun _ => ?_
  refine .bind (textSince_takes.pre fun _ h => h.reads) fun literal => ?_
  cases host.parseFloat literal with
  | none => exact issueSince_takes
  | some value => exact token_takes.weaken (fun _ h => h) (fun _ _ h => h.1) fun _ => le_rfl

lemma number_takes : TakesOne source start c (number host source from₀) := by
  have hpeek : Takes source (Looking source start c) (peek source)
      (fun _ => Looking source start c) (fun _ => 0) := by
    intro l hl
    rw [peek_of_looking hl]
    exact ⟨hl, le_rfl⟩
  refine .bind hpeek fun first => .bind (peekSecond_takes fun _ h => h.1) fun second => ?_
  cases (if first = some '0' then second.bind radixOf else none) with
  | none => exact decimalNumber_takes hc
  | some radix => exact radixNumber_takes

end

/-! ## Strings -/

lemma appendUnits_takes {value units : List UInt16} :
    Stays source start (appendUnits value units from₀) :=
  .ite (fun _ => issueSince_takes) fun _ => .ite (fun _ => issueSince_takes) fun _ =>
    .pure (fun _ h => h) rfl

lemma fixedHexEscape_takes (digits value : Nat) :
    Stays source start (fixedHexEscape source from₀ digits value) := by
  induction digits generalizing value with
  | zero => exact .pure (fun _ h => h) rfl
  | succ digits ih =>
    refine .bind bump_any fun next => ?_
    cases next with
    | none => exact issueSince_takes
    | some c =>
      dsimp only
      cases toDigit 16 c with
      | none => exact issueSince_takes
      | some digit => exact ih _

lemma bracedUnicodeEscape_takes : Stays source start (bracedUnicodeEscape source from₀) := by
  refine .bind (iterate_takes (Q := fun _ => Reads source start)
    (fun escape => .bind peek_takes fun next => ?_) _) fun escape => ?_
  · cases next with
    | none => exact .pure (fun _ h => h) rfl
    | some c =>
      dsimp only [Option.bind_some]
      cases toDigit 16 c with
      | none => exact .pure (fun _ h => h.1) rfl
      | some digit => exact .bind bump_takes fun _ => .pure (fun _ h => h) rfl
  · refine .ite (fun _ => issueSince_takes) fun _ => .bind consume_takes fun closed => ?_
    exact .ite (fun _ => .pure (fun _ h => h) rfl) fun _ => issueSince_takes

lemma escapeSequence_takes {value : List UInt16} {escaped : Char} :
    Stays source start (escapeSequence source value from₀ escaped) := by
  unfold escapeSequence
  cases simpleEscape escaped with
  | some unit => exact appendUnits_takes
  | none =>
    have happend : ∀ next codePoint, Takes source (Seen source start next)
        (appendCodePoint value codePoint from₀) (fun _ => Reads source start) (fun _ => 0) :=
      fun _ _ => appendUnits_takes.pre fun _ h => h.reads
    refine .bind peek_takes fun next => .ite (fun _ => happend _ _) fun _ => ?_
    refine .ite (fun _ => ?_) fun _ => .ite (fun _ => ?_) fun _ => ?_
    · exact .bind ((fixedHexEscape_takes 2 0).pre fun _ h => h.reads) fun _ => appendUnits_takes
    · refine .bind (consume_takes.pre fun _ h => h.reads) fun braced => ?_
      refine .bind (.ite (fun _ => bracedUnicodeEscape_takes) fun _ => fixedHexEscape_takes 4 0)
        fun _ => appendUnits_takes
    · refine .ite (fun _ => .pure (fun _ h => h.reads) rfl) fun _ => .ite (fun _ => ?_) fun _ =>
        .ite (fun _ => issueSince_takes) fun _ => happend _ _
      refine .ite (fun _ => ?_) fun _ => .pure (fun _ h => h.reads) rfl
      exact .bind (bump_any.pre fun _ h => h.reads) fun _ => .pure (fun _ h => h) rfl

lemma stringRound_takes {quote : Char} (value : List UInt16) :
    Takes source (Reads source start) (stringRound source from₀ quote value)
      (Leads (fun _ => Reads source start) fun _ => Reads source start) gain := by
  refine .bind peek_takes fun next => ?_
  cases next with
  | none => exact issueSince_takes
  | some c =>
    refine .ite (fun _ => .bind bump_takes fun _ => ?_) fun _ =>
      .ite (fun _ => issueSince_takes) fun _ => .bind bump_takes fun _ => ?_
    · cases JsString.fromCodeUnits value with
      | error message => exact issueSince_takes
      | ok text => exact .bind token_takes fun _ => .pure (fun _ h => h.1) rfl
    · refine .ite (fun _ => ?_) fun _ => .read fun l hl => ?_
      · exact .bind appendUnits_takes fun _ => .pure (fun _ h => h) rfl
      · refine .bind (bump_any.pre fun _ heq => heq ▸ hl) fun escaped => ?_
        cases escaped with
        | none => exact issueSince_takes
        | some c => exact .bind escapeSequence_takes fun _ => .pure (fun _ h => h) rfl

lemma string_takes : TakesOne source start c (string source from₀) := by
  refine .bind bump_takes fun quote => ?_
  cases quote with
  | none => exact issueSince_takes
  | some quote => exact iterate_takes stringRound_takes []

/-! ## Tokens -/

lemma withEquals_takes {longer shorter : LexerM TokenKind} (hlonger : Stays source start longer)
    (hshorter : Stays source start shorter) :
    Stays source start (withEquals source longer shorter) :=
  .bind consume_takes fun _ => .ite (fun _ => hlonger) fun _ => hshorter

lemma doubled_takes {expected : Char} {kind : TokenKind} :
    Stays source start (punctuator.doubled source from₀ expected kind) :=
  .bind consume_takes fun _ => .ite (fun _ => .pure (fun _ h => h) rfl) fun _ => issueSince_takes

lemma punctuator_takes : Stays source start (punctuator host source from₀ c) := by
  have hpure : ∀ kind : TokenKind, Stays source start (pure kind) :=
    fun _ => .pure (fun _ h => h) rfl
  unfold punctuator
  split
  case h_16 => exact withEquals_takes (withEquals_takes (hpure _) (hpure _)) (hpure _)
  case h_17 => exact withEquals_takes (withEquals_takes (hpure _) (hpure _)) (hpure _)
  case h_18 => exact withEquals_takes (hpure _) (hpure _)
  case h_19 => exact withEquals_takes (hpure _) (hpure _)
  case h_20 => exact doubled_takes
  case h_21 => exact doubled_takes
  case h_22 => exact issueSince_takes
  all_goals exact hpure _

/-- What a token has taken of the text: something, unless it is the end of the input. -/
def tokenGain (token : Token) : Nat := if sameVariant token.kind .eof then 0 else 1

lemma tokenGain_le (token : Token) : tokenGain token ≤ 1 := by
  unfold tokenGain
  split <;> omega

lemma nextToken_takes : Takes source (Reads source start) (nextToken host source)
    (fun _ => Reads source start) tokenGain := by
  refine .read fun l hl => .bind (peek_takes.pre fun _ heq => heq ▸ hl) fun next => ?_
  cases next with
  | none =>
    intro s hs
    exact ⟨hs, le_rfl⟩
  | some c =>
    have hone : ∀ {m : LexerM Token}, TakesOne source start c m →
        Takes source (Looking source start c) m (fun _ => Reads source start) tokenGain :=
      fun h => h.loosen tokenGain_le
    refine .bind (peekSecond_takes fun _ h => h.1) fun second => ?_
    refine .ite (fun _ => hone identifier_takes) fun _ => .ite (fun hc => hone ?_) fun _ =>
      .ite (fun _ => hone string_takes) fun _ => hone ?_
    · exact number_takes (hc.imp_right And.left)
    · refine .bind bump_takes fun _ => .bind punctuator_takes fun kind => ?_
      exact token_takes.weaken (fun _ h => h) (fun _ _ h => h.1) fun _ => le_rfl

end Lexer

/-! ## The whole text -/

/-- Tokens that end with the end of the input, which occurs nowhere else. -/
def EndsInput (tokens : List Token) : Prop :=
  ∃ body last, tokens = body ++ [last] ∧ sameVariant last.kind .eof = true ∧
    ∀ token ∈ body, sameVariant token.kind .eof = false

namespace Lexer

variable {host : Host} {source : List Char}

lemma tokenizeRound_takes (tokens : List Token) : Takes source
      (fun l => Reads source 0 l ∧ ∀ token ∈ tokens, sameVariant token.kind .eof = false)
      (tokenizeRound host source tokens) (Leads
        (fun more l => Reads source 0 l ∧ ∀ token ∈ more, sameVariant token.kind .eof = false)
        fun all _ => EndsInput all) gain := by
  intro l hl
  refine sat_bind.mpr ((skipTrivia_takes l hl.1).imp fun _ l₁ h₁ => ?_)
  refine sat_bind.mpr ((nextToken_takes l₁ h₁.1).imp fun next l₂ h₂ => ?_)
  have hnext : left source l₂ + tokenGain next ≤ left source l₁ := h₂.2
  by_cases hend : sameVariant next.kind .eof = true
  · rw [if_pos hend]
    exact ⟨⟨tokens, next, rfl, hend, hl.2⟩, by simp only [gain]; omega⟩
  · rw [if_neg hend]
    rw [tokenGain, if_neg hend] at hnext
    refine ⟨⟨h₂.1, fun token htoken => ?_⟩, by simp only [gain]; omega⟩
    rcases List.mem_append.mp htoken with hold | hnew
    · exact hl.2 token hold
    · rw [List.mem_singleton.mp hnew]
      simpa using hend

/-- **The lexer returns on every text**, and its tokens end with the end of the input. -/
theorem tokenize_sat : (tokenize host source .new).Ends (fun tokens _ => EndsInput tokens)
    (fun _ _ => True) := by
  refine (Uses.iterate tokenizeRound_takes _ [] _
    ⟨⟨reads_new, by simp⟩, reads_new.left_lt⟩).imp fun tokens l h => h.1

end Lexer

end WildBuzzard.Script
