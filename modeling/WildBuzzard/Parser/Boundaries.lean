import WildBuzzard.Parser.Cuts

/-!
# Slices of the tokenizer

Every slice of the tokenizer is at offsets that scans for ASCII bytes found, **except one**: the name
in `find_appropriate_end_tag`, whose end is computed by adding the length of the end tag. After
`<script>` the text `</scripé` makes that slice end inside the `é` (`feed_scripte_panics`).

* `consume_eq_halted`: **a round panics exactly if an end tag candidate straddles a character.**
* `feedAll_returns_iff`: a tokenizer that is fed any chunks and finished returns exactly if no round
  of the run comes to such a state. It then always returns: the loops end, and `feed` and `finish` do
  not fail.
-/

namespace WildBuzzard.Parser

open Lib Report

/-- The text mode waits for an end tag, and a candidate for it straddles a character. -/
def StraddlesEndTag (c : Cursor) (pending : List Char) : Prop :=
  ∃ endTag, (c.textMode = some (.rawText endTag) ∨ c.textMode = some (.rcData endTag)) ∧
    Straddles endTag pending

section

variable {c : Cursor} {pending : List Char} {length : ℕ}

/-! ## Text -/

variable (limits : TokenizerLimits) (eof : Bool) (rest : List Char)

lemma textData_safe (decodeEntities : Bool) (source : List Char) (position : SourcePosition) :
    (textData decodeEntities source position).Safe fun data => source ≠ [] → data ≠ [] :=
  .ite (decodeReferences_safe source position false) (replaceNullsAndNormalize_safe source position)

lemma emitCharacters_safe (h : IsBoundary pending length) (decodeEntities : Bool) :
    (emitCharacters c pending length decodeEntities).Safe fun _ => True := by
  obtain ⟨a, b, hsplit, -⟩ := exists_splitText h
  exact .silent_bind hsplit (.bind (textData_safe _ _ _) fun _ _ => .pure trivial)

lemma emitCharacterLiteral_safe (h : IsBoundary pending length) :
    (emitCharacterLiteral c pending length).Safe fun _ => True := by
  obtain ⟨a, b, hsplit, -⟩ := exists_splitText h
  exact .silent_bind hsplit (.pure trivial)

lemma consumeUntilEndTag_safe {endTag : List Char} (h : ¬Straddles endTag pending) (eof : Bool)
    (decodeEntities : Bool) :
    (consumeUntilEndTag eof c endTag decodeEntities pending).Safe fun _ => True := by
  unfold consumeUntilEndTag
  rw [findAppropriateEndTag_eq]
  rcases hfound : endTagIn endTag pending with r | found
  · exact absurd (endTagIn_eq_error.mp hfound).2 h
  · refine .silent_bind rfl ?_
    rcases found with _ | index
    · dsimp only
      refine .ite (emitCharacters_safe (.atEnd pending) _) ?_
      by_cases hretain : byteLen pending ≤ byteLen endTag + 4
      · rw [if_pos hretain]
        exact .pure trivial
      · rw [if_neg hretain]
        obtain ⟨a, r, hp, hlen, -⟩ :=
          streamedTextLength_spec (Nat.le_of_lt (Nat.lt_of_not_le hretain)) decodeEntities
        exact .silent_bind hlen (.ite (.pure trivial) (emitCharacters_safe ⟨a, r, hp, rfl⟩ _))
    · obtain ⟨a, after, hp, ha⟩ := endTagIn_eq_some hfound
      exact .ite (.pure trivial) (emitCharacters_safe ⟨a, _, hp, ha⟩ _)

lemma consumeTextMode_safe {mode : TextMode} (hmode : c.textMode = some mode)
    (h : ¬StraddlesEndTag c pending) (eof : Bool) :
    (consumeTextMode eof c mode pending).Safe fun _ => True := by
  cases mode with
  | rawText endTag =>
    exact consumeUntilEndTag_safe (fun hs => h ⟨endTag, .inl hmode, hs⟩) eof _
  | rcData endTag =>
    exact consumeUntilEndTag_safe (fun hs => h ⟨endTag, .inr hmode, hs⟩) eof _
  | plainText =>
    have hlen : (if eof then pure (byteLen pending)
        else .silent (safeStreamTextPrefix pending false true) : Report ParseError ℕ).Safe
          (IsBoundary pending) := by
      obtain ⟨a, r, hp, hsafe, -⟩ := safeStreamTextPrefix_spec pending false
      refine .ite (.pure (.atEnd pending)) ⟨byteLen a, [], by rw [hsafe]; rfl, a, r, hp, rfl⟩
    exact .bind hlen fun length hl => .ite (.pure trivial) (emitCharacters_safe hl _)

lemma consumeText_safe : (consumeText eof c pending).Safe fun _ => True := by
  have hlen : (textLength eof pending).Safe (IsBoundary pending) := by
    unfold textLength
    rcases hfind : findChar '<' pending with _ | index
    · obtain ⟨a, r, hp, hsafe, -⟩ := safeStreamTextPrefix_spec pending true
      exact .ite (.pure (.atEnd pending)) ⟨byteLen a, [], by rw [hsafe]; rfl, a, r, hp, rfl⟩
    · obtain ⟨a, b, hp, -, ha⟩ := findChar_eq_some.mp hfind
      exact .pure ⟨a, _, hp, ha⟩
  exact .bind hlen fun length hl => .ite (.pure trivial) (emitCharacters_safe hl _)

/-! ## Markup -/

/-- A `<` is one byte. -/
lemma boundary_one : IsBoundary ('<' :: rest) 1 := ⟨['<'], rest, rfl, rfl⟩

lemma overLimit_safe : (overLimit c ('<' :: rest)).Safe fun _ => True :=
  .bind (.log _) fun _ _ => emitCharacterLiteral_safe (boundary_one rest)

lemma consumeLessThan_safe : (consumeLessThan c ('<' :: rest)).Safe fun _ => True :=
  .bind (.log _) fun _ _ => emitCharacters_safe (boundary_one rest) _

lemma commentToken_safe {contentEnd : ℕ} (h4 : IsBoundary pending 4)
    (hend : IsBoundary pending contentEnd) (hle : 4 ≤ contentEnd) (h : IsBoundary pending length) :
    (commentToken c pending contentEnd length).Safe fun _ => True := by
  obtain ⟨a, b, hsplit, -⟩ := exists_splitText h
  obtain ⟨_, content, _, hslice, -⟩ := exists_slice h4 hend hle
  exact .silent_bind hsplit (.silent_bind hslice (.pure trivial))

lemma consumeComment_safe :
    (consumeComment limits eof c ("<!--".toList ++ rest)).Safe fun _ => True := by
  have h4 : IsBoundary ("<!--".toList ++ rest) 4 := ⟨"<!--".toList, rest, rfl, rfl⟩
  refine .silent_bind (splitText_append "<!--".toList rest) ?_
  rcases hfind : findText "-->".toList rest with _ | index
  · refine .ite (.bind (.log _) fun _ _ => ?_) (.ite (.pure trivial) (overLimit_safe _))
    exact commentToken_safe h4 (.atEnd _) h4.le_byteLen (.atEnd _)
  · obtain ⟨a, b, rfl, rfl⟩ := findText_eq_some hfind
    refine commentToken_safe h4 ⟨"<!--".toList ++ a, "-->".toList ++ b, by simp, ?_⟩ (by omega)
      ⟨"<!--".toList ++ a ++ "-->".toList, b, by simp, ?_⟩
    · rw [byteLen_append]
      exact Nat.add_comm _ _
    · rw [byteLen_append, byteLen_append, Nat.add_comm (byteLen a) 4]
      rfl

/-- The content of a bogus comment starts after two bytes and ends before its `>`. -/
lemma bogusCommentToken_safe {d : Char} (hd : d.utf8Size = 1) (hgt : d ≠ '>') {a b : List Char}
    (hp : pending = '<' :: d :: a ++ b) :
    (bogusCommentToken c pending (byteLen ('<' :: d :: a))).Safe fun _ => True := by
  have hless : '<'.utf8Size = 1 := rfl
  have hlen : byteLen ('<' :: d :: a) = 2 + byteLen a := by
    rw [byteLen_cons, byteLen_cons, hd, hless]
    omega
  have hslice : ∃ content, slice ('<' :: d :: a) (min 2 (byteLen ('<' :: d :: a)))
      (byteLen ('<' :: d :: a) - if ('<' :: d :: a).getLast? = some '>' then 1 else 0) =
        .ok content := by
    have h2 : IsBoundary ('<' :: d :: a) 2 := ⟨['<', d], a, rfl, by simp [hd, hless]⟩
    rw [Nat.min_eq_left (by omega)]
    split_ifs with hlast
    · obtain ⟨u, hu⟩ := List.getLast?_eq_some_iff.mp hlast
      have hgt' : '>'.utf8Size = 1 := rfl
      -- the `>` comes after the second byte
      have hul : byteLen u + 1 = 2 + byteLen a := by
        rw [← hlen, hu, byteLen_append, byteLen_cons, byteLen_nil, hgt']
      have hpos : 2 ≤ byteLen u := by
        rcases a with _ | ⟨e, a⟩
        · have : d = '>' := by simpa using hlast
          exact absurd this hgt
        · have := e.utf8Size_pos
          rw [byteLen_cons] at hul
          omega
      obtain ⟨_, content, _, hslice, -⟩ :=
        exists_slice h2 (j := byteLen ('<' :: d :: a) - 1) ⟨u, ['>'], hu, by omega⟩ (by omega)
      exact ⟨content, hslice⟩
    · obtain ⟨_, content, _, hslice, -⟩ := exists_slice h2 (.atEnd _) (by omega)
      exact ⟨content, hslice⟩
  obtain ⟨content, hslice⟩ := hslice
  rw [hp]
  exact .bind (.log _) fun _ _ => .silent_bind (splitText_append _ _)
    (.silent_bind hslice (.pure trivial))

lemma consumeBogusComment_safe {d : Char} (hd : d.utf8Size = 1) (hgt : d ≠ '>') (rest : List Char) :
    (consumeBogusComment limits eof c ('<' :: d :: rest)).Safe fun _ => True := by
  unfold consumeBogusComment
  rcases hfind : findChar '>' ('<' :: d :: rest) with _ | index
  · refine .ite ?_ (.ite (.pure trivial) (overLimit_safe _))
    exact bogusCommentToken_safe (b := []) hd hgt (by simp)
  · obtain ⟨a, b, hp, -, rfl⟩ := findChar_eq_some.mp hfind
    -- the `>` is not one of the first two characters
    obtain ⟨a, rfl⟩ : ∃ a', a = '<' :: d :: a' := by
      rcases a with _ | ⟨x, _ | ⟨y, a⟩⟩
      · cases hp
      · cases hp
        exact absurd rfl hgt
      · cases hp
        exact ⟨a, rfl⟩
    have hgt' : '>'.utf8Size = 1 := rfl
    have hlen : byteLen ('<' :: d :: a) + 1 = byteLen ('<' :: d :: (a ++ ['>'])) := by
      simp only [byteLen_cons, byteLen_append, byteLen_nil, hgt']
      omega
    rw [hp]
    simp only [hlen]
    exact bogusCommentToken_safe (b := b) hd hgt (by simp)

/-- A tag or doctype whose parser is safe on every complete source. -/
lemma completeTag_safe {parse : List Char × List Char → Report ParseError Round}
    (hparse : ∀ a b, '<' :: rest = a ++ '>' :: b → (parse (a ++ ['>'], b)).Safe fun _ => True) :
    (completeTag limits eof c ('<' :: rest) parse).Safe fun _ => True := by
  unfold completeTag
  rcases hend : findTagEnd ('<' :: rest) with _ | stop
  · refine .ite (.pure trivial) (.bind (.log _) fun _ _ => ?_)
    have hb : IsBoundary ('<' :: rest) (if eof then byteLen ('<' :: rest) else 1) := by
      split_ifs
      · exact .atEnd _
      · exact boundary_one rest
    obtain ⟨_, _, hsplit, -⟩ := exists_splitText hb
    exact .silent_bind hsplit (.pure trivial)
  · obtain ⟨a, b, hp, rfl⟩ := findTagEnd_spec hend
    have hsplit : splitText ('<' :: rest) (byteLen a + 1) = .ok (a ++ ['>'], b) := by
      have := splitText_append (a ++ ['>']) b
      have hgt : '>'.utf8Size = 1 := rfl
      rw [byteLen_append, byteLen_cons, byteLen_nil, hgt] at this
      rw [hp]
      simpa using this
    exact .silent_bind hsplit (hparse a b hp)

lemma consumeDoctype_safe
    (hstart : startsAsciiCaseInsensitive ('<' :: rest) "<!doctype".toList = true) :
    (consumeDoctype limits eof c ('<' :: rest)).Safe fun _ => True := by
  refine completeTag_safe limits eof rest fun a b hp => ?_
  refine .bind (parseDoctype_safe c.position ?_) fun _ _ => .pure trivial
  -- the keyword is in the source, or the source ends before it
  have hkey := startsAsciiCaseInsensitive_boundary hstart
  rcases Nat.le_total (byteLen "<!doctype".toList) (byteLen a) with hle | hle
  · rw [Nat.min_eq_left hle]
    have hwhole : '<' :: rest = (a ++ ['>']) ++ b := by rw [hp]; simp
    rw [hwhole] at hkey
    exact hkey.of_append (by rw [byteLen_append]; omega)
  · rw [Nat.min_eq_right hle]
    exact ⟨a, ['>'], rfl, rfl⟩

lemma consumeEndTag_safe :
    (consumeEndTag limits eof c ('<' :: '/' :: rest)).Safe fun _ => True := by
  refine completeTag_safe limits eof _ fun a b hp => ?_
  obtain ⟨a, rfl⟩ : ∃ a', a = '<' :: '/' :: a' := by
    rcases a with _ | ⟨x, _ | ⟨y, a⟩⟩
    · cases hp
    · cases hp
    · cases hp
      exact ⟨a, rfl⟩
  exact .bind (parseEndTag_safe c.position a) fun _ _ => .pure trivial

lemma consumeStartTag_safe : (consumeStartTag limits eof c ('<' :: rest)).Safe fun _ => True := by
  refine completeTag_safe limits eof _ fun a b hp => ?_
  obtain ⟨a, rfl⟩ : ∃ a', a = '<' :: a' := by
    rcases a with _ | ⟨x, a⟩
    · cases hp
    · cases hp
      exact ⟨a, rfl⟩
  exact .bind (parseStartTag_safe limits c.position a) fun _ _ => .pure trivial

lemma consumeTagOpen_safe : (consumeTagOpen limits eof c ('<' :: rest)).Safe fun _ => True := by
  refine .silent_bind (splitText_append ['<'] rest) ?_
  split
  · exact .ite (consumeStartTag_safe limits eof rest) (consumeLessThan_safe rest)
  · exact .ite (consumeLessThan_safe rest) (.pure trivial)

lemma consumeData_safe : (consumeData limits eof c pending).Safe fun _ => True := by
  unfold consumeData
  split
  · exact consumeText_safe eof
  · rename_i hless
    obtain ⟨rest, rfl⟩ : ∃ rest, pending = '<' :: rest := by
      rw [Bool.not_eq_true', Bool.not_eq_false] at hless
      obtain ⟨rest, hrest⟩ := List.isPrefixOf_iff_prefix.mp hless
      exact ⟨rest, hrest.symm⟩
    have hof : ∀ {keyword : List Char}, keyword.isPrefixOf ('<' :: rest) = true →
        ∃ t, '<' :: rest = keyword ++ t := by
      intro keyword h
      obtain ⟨t, ht⟩ := List.isPrefixOf_iff_prefix.mp h
      exact ⟨t, ht.symm⟩
    refine .ite (.pure trivial) (.ite (.pure trivial) ?_)
    split
    · rename_i hcomment
      obtain ⟨t, ht⟩ := hof hcomment
      rw [ht]
      exact consumeComment_safe limits eof t
    · refine .ite (.pure trivial) ?_
      split
      · rename_i hdoctype
        exact consumeDoctype_safe limits eof rest hdoctype
      · split
        · rename_i hbogus
          rcases Bool.or_eq_true_iff.mp hbogus with h | h
          · obtain ⟨t, ht⟩ := hof h
            rw [ht]
            exact consumeBogusComment_safe limits eof (by decide) (by decide) t
          · obtain ⟨t, ht⟩ := hof h
            rw [ht]
            exact consumeBogusComment_safe limits eof (by decide) (by decide) t
        · split
          · rename_i hend
            obtain ⟨t, ht⟩ := hof hend
            rw [ht]
            exact consumeEndTag_safe limits eof t
          · exact consumeTagOpen_safe limits eof rest

/-! ## Rounds and runs -/

/-- **A round panics exactly if an end tag candidate straddles a character**, and it never hangs. -/
theorem consume_eq_halted {h : Halt} :
    consume limits eof c pending = .halted h ↔ h = sliceError ∧ StraddlesEndTag c pending := by
  constructor
  · intro hhalt
    by_cases hs : StraddlesEndTag c pending
    · refine ⟨?_, hs⟩
      obtain ⟨endTag, hmode, hstraddle⟩ := hs
      have herror := endTagIn_eq_error.mpr ⟨rfl, hstraddle⟩
      rcases hmode with hmode | hmode <;>
        · simp only [consume, hmode, consumeTextMode, consumeUntilEndTag,
            findAppropriateEndTag_eq, herror, silent_error, halted_bind] at hhalt
          exact (halted.inj hhalt).symm
    · -- without a candidate that straddles, no part of a round halts
      have hsafe : (consume limits eof c pending).Safe fun _ => True := by
        unfold consume
        split
        · rename_i mode hmode
          exact consumeTextMode_safe hmode hs eof
        · exact consumeData_safe limits eof
      obtain ⟨r, m, hdone, -⟩ := hsafe
      rw [hdone] at hhalt
      cases hhalt
  · rintro ⟨rfl, endTag, hmode, hstraddle⟩
    have herror := endTagIn_eq_error.mpr ⟨rfl, hstraddle⟩
    rcases hmode with hmode | hmode <;>
      simp only [consume, hmode, consumeTextMode, consumeUntilEndTag, findAppropriateEndTag_eq,
        herror, silent_error, halted_bind]

end

namespace Tokenizer

/-- The cursor of a tokenizer. -/
def cursor (t : Tokenizer) : Cursor := ⟨t.position, t.textMode⟩

/-- **Feeding chunks and finishing is a run of the machine**: the tokens and the errors of the run,
or its halt. -/
theorem feedAll_eq {t : Tokenizer} (ht : t.finished = false) (chunks : List (List Char)) :
    match (tokenizerMachine t.limits).runFrom t.cursor t.pending chunks with
    | .done tokens errors =>
      ∃ t', feedAll chunks t = .ok tokens t' ∧ t'.errors = t.errors ++ errors
    | .halted h => feedAll chunks t = .halt h := by
  induction chunks generalizing t with
  | nil =>
    rw [feedAll, Machine.runFrom, Machine.finish]
    simp only [finish, ht, Bool.false_eq_true, if_false, drain, cursor]
    rcases (tokenizerMachine t.limits).drain true ⟨t.position, t.textMode⟩ t.pending with
      ⟨⟨c, pending, output⟩, errors⟩ | h
    · exact ⟨_, rfl, rfl⟩
    · rfl
  | cons chunk chunks ih =>
    rw [feedAll, Machine.runFrom]
    simp only [Call.bind_apply, feed, ht, Bool.false_eq_true, if_false, drain, cursor]
    rcases (tokenizerMachine t.limits).drain false ⟨t.position, t.textMode⟩ (t.pending ++ chunk)
      with ⟨⟨c, pending, output⟩, errors⟩ | h
    · -- the rest of the run starts from the tokenizer that the first feed left
      have hrest := @ih ⟨pending, c.position, t.errors ++ errors, t.limits, c.textMode, false⟩ rfl
      simp only [cursor] at hrest
      simp only [done_bind, Outcome.andThen]
      rcases hrun : (tokenizerMachine t.limits).runFrom c pending chunks with ⟨more, errors'⟩ | h
      · rw [hrun] at hrest
        obtain ⟨t', hfeed, herrors⟩ := hrest
        exact ⟨t', by rw [Call.bind_apply, hfeed]; rfl, by rw [herrors, List.append_assoc]⟩
      · rw [hrun] at hrest
        rw [Call.bind_apply, hrest]
        rfl
    · rfl

/-- **A tokenizer that is fed chunks and finished returns exactly if no round of the run is in a
state where an end tag candidate straddles a character.** -/
theorem feedAll_returns_iff (limits : TokenizerLimits) (chunks : List (List Char)) :
    (∃ tokens t, feedAll chunks (Tokenizer.new limits) = .ok tokens t) ↔
      ∀ c, (tokenizerMachine limits).Reaches ⟨false, chunks, {}, []⟩ c →
        ¬StraddlesEndTag c.state c.pending := by
  have hrun := feedAll_eq (t := Tokenizer.new limits) rfl chunks
  have hhalts := @Machine.run_eq_halted_iff _ _ _ _ (tokenizerMachine limits) {} chunks
  change match (tokenizerMachine limits).runFrom {} [] chunks with
    | .done tokens errors => _
    | .halted h => _ at hrun
  constructor
  · rintro ⟨tokens, t, hok⟩ c hreach hstraddle
    have hpending : c.pending ≠ [] := by
      obtain ⟨endTag, -, a, after, heq, -⟩ := hstraddle
      rw [heq]
      simp
    have hhalted := hhalts.mpr ⟨c, hreach, hpending,
      (consume_eq_halted limits c.eof).mpr ⟨rfl, hstraddle⟩⟩
    rw [hhalted] at hrun
    rw [hok] at hrun
    cases hrun
  · intro hnever
    rcases hr : (tokenizerMachine limits).runFrom {} [] chunks with ⟨tokens, errors⟩ | h
    · rw [hr] at hrun
      obtain ⟨t, hok, -⟩ := hrun
      exact ⟨tokens, t, hok⟩
    · obtain ⟨c, hreach, -, hround⟩ := hhalts.mp hr
      exact absurd ((consume_eq_halted limits c.eof).mp hround).2 (hnever c hreach)

/-- The name in `</scripé` would end inside the last character. -/
theorem feed_scripte_panics :
    feedAll ["<script></scrip\u00e9".toList] (Tokenizer.new .default) = .halt sliceError := by
  decide +kernel

end Tokenizer

end WildBuzzard.Parser
