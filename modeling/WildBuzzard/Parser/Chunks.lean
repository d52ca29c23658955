import WildBuzzard.Parser.Splits

/-!
# The chunks of the input do not matter

`feedAll_chunks`: **a tokenizer that is fed a source in chunks and finished gives the tokens and the
errors that it gives for the whole source**, tokens of adjacent text merged. The source has at most
`max_token_bytes` bytes, so that no round runs into the limit.

The proof shows that the rounds of the tokenizer are `Cuttable` (`tokenizerMachine_cuttable`), which
is enough for chunk invariance of any incremental machine. A round on what was fed so far is of one
of two kinds:

* It found the end of what it reads. Then a round at the end of input, with the rest of the input
  present, does the same (`Extends`).
* It emits text up to a clean cut. Then the round at the end of input emits that text and more, and
  what follows the cut starts with the rest of it (`finish_textCut`).
-/

namespace WildBuzzard.Parser

open Lib Report List Cursor

/-! ## Rounds that found an end -/

/-- If `x` makes progress, `y` does the same with `q` after the text left. -/
def Extends (q : List Char) (x y : Report ParseError Round) : Prop :=
  ∀ c rest tokens m, x = .done (some (c, rest, tokens)) m →
    y = .done (some (c, rest ++ q, tokens)) m

namespace Extends

variable {q : List Char} {α : Type}

lemma none (y : Report ParseError Round) : Extends q (pure none) y := by
  intro c rest tokens m h
  cases h

lemma consumed (c : Cursor) (rest : List Char) (tokens : List SpannedToken) :
    Extends q (pure (some (c, rest, tokens))) (pure (some (c, rest ++ q, tokens))) := by
  intro c' rest' tokens' m h
  cases h
  rfl

/-- The same computation in front of both. -/
lemma bind (x : Report ParseError α) {f g : α → Report ParseError Round}
    (h : ∀ a, Extends q (f a) (g a)) : Extends q (x >>= f) (x >>= g) := by
  intro c rest tokens m heq
  rcases x with ⟨a, m₁⟩ | r
  · rw [done_bind] at heq ⊢
    rcases hfa : f a with ⟨r, m₂⟩ | r
    · rw [hfa] at heq
      cases heq
      rw [h a _ _ _ _ hfa]
      rfl
    · rw [hfa] at heq
      cases heq
  · cases heq

/-- A cut of the text, which appended text does not move. -/
lemma split {pending : List Char} {length : ℕ}
    {f g : List Char × List Char → Report ParseError Round}
    (h : ∀ parts : List Char × List Char, Extends q (f parts) (g (parts.1, parts.2 ++ q))) :
    Extends q (.silent (splitText pending length) >>= f)
      (.silent (splitText (pending ++ q) length) >>= g) := by
  rcases hsplit : splitText pending length with r | parts
  · intro c rest tokens m heq
    cases heq
  · rw [splitText_append_right hsplit]
    simp only [silent_ok, pure_bind]
    exact h parts

/-- A slice of the text. -/
lemma slice {pending : List Char} {i j : ℕ} {f : List Char → Report ParseError Round}
    {g : List Char → Report ParseError Round} (h : ∀ a, Extends q (f a) (g a)) :
    Extends q (.silent (slice pending i j) >>= f) (.silent (slice (pending ++ q) i j) >>= g) := by
  rcases hslice : Lib.slice pending i j with r | a
  · intro c rest tokens m heq
    cases heq
  · have hj : j ≤ byteLen pending := by
      obtain ⟨upTo, hsplit, -⟩ := bind_eq_ok.mp hslice
      obtain ⟨happ, hlen⟩ := splitText_eq_ok.mp hsplit
      rw [happ, byteLen_append]
      omega
    rw [slice_append_right hj, hslice]
    simp only [silent_ok, pure_bind]
    exact h a

lemma ite {cond : Prop} [Decidable cond] {x x' y y' : Report ParseError Round}
    (hx : Extends q x y) (hx' : Extends q x' y') :
    Extends q (if cond then x else x') (if cond then y else y') := by
  split
  · exact hx
  · exact hx'

end Extends

section

variable {c : Cursor} {pending q : List Char} {length : ℕ} {limits : TokenizerLimits}

variable {endTag : List Char} {decodeEntities : Bool} {p : List Char} {tokens : List SpannedToken}
  {m : List ParseError}

lemma emitCharacters_extends (decodeEntities : Bool) :
    Extends q (emitCharacters c pending length decodeEntities)
      (emitCharacters c (pending ++ q) length decodeEntities) :=
  .split fun _ => .bind _ fun _ => .consumed _ _ _

lemma consumeComment_extends (hw : byteLen pending ≤ limits.maxTokenBytes) :
    Extends q (consumeComment limits false c pending)
      (consumeComment limits true c (pending ++ q)) := by
  refine .split fun parts => ?_
  rcases hfind : findText "-->".toList parts.2 with _ | index
  · rw [if_neg (by simp), if_pos hw]
    exact .none _
  · rw [findText_append hfind]
    exact .split fun _ => .slice fun _ => .consumed _ _ _

lemma consumeBogusComment_extends (hw : byteLen pending ≤ limits.maxTokenBytes) :
    Extends q (consumeBogusComment limits false c pending)
      (consumeBogusComment limits true c (pending ++ q)) := by
  unfold consumeBogusComment
  rcases hfind : findChar '>' pending with _ | index
  · dsimp only
    rw [if_neg (by simp), if_pos hw]
    exact .none _
  · rw [findChar_append hfind]
    exact .bind _ fun _ => .split fun _ => .bind _ fun _ => .consumed _ _ _

variable {parse : List Char × List Char → Report ParseError Round}

lemma completeTag_extends (hw : byteLen pending ≤ limits.maxTokenBytes)
    (hparse : ∀ parts : List Char × List Char,
      Extends q (parse parts) (parse (parts.1, parts.2 ++ q))) :
    Extends q (completeTag limits false c pending parse)
      (completeTag limits true c (pending ++ q) parse) := by
  unfold completeTag
  rcases hend : findTagEnd pending with _ | stop
  · have hwait : (!false && decide (byteLen pending ≤ limits.maxTokenBytes)) = true := by simp [hw]
    rw [if_pos hwait]
    exact .none _
  · rw [findTagEnd_append hend]
    exact .split hparse

lemma consumeTagOpen_extends (hw : byteLen pending ≤ limits.maxTokenBytes) :
    Extends q (consumeTagOpen limits false c pending)
      (consumeTagOpen limits true c (pending ++ q)) := by
  refine .split fun parts => ?_
  rcases parts.2 with _ | ⟨d, rest⟩
  · exact .none _
  · exact .ite (completeTag_extends hw fun _ => .bind _ fun _ => .consumed _ _ _)
      (.bind _ fun _ => emitCharacters_extends _)

lemma consumeText_extends {index : ℕ} (h : findChar '<' pending = some index) :
    Extends q (consumeText false c pending) (consumeText true c (pending ++ q)) := by
  unfold consumeText textLength
  rw [h, findChar_append h]
  simp only [pure_bind]
  exact .ite (.none _) (emitCharacters_extends _)

/-! ### Dispatch on what follows `<` -/

/-- A keyword in a text that goes on is in the text, or the text is a proper prefix of it. -/
lemma prefix_append_cases {keyword p q : List Char} (h : keyword.isPrefixOf (p ++ q) = true) :
    keyword.isPrefixOf p = true ∨ ∃ n < keyword.length, p = keyword.take n := by
  have hstarts := isPrefixOf_iff_prefix.mp h
  rcases Nat.lt_or_ge p.length keyword.length with hlt | hge
  · refine .inr ⟨p.length, hlt, ?_⟩
    exact (prefix_iff_eq_take.mp
      (prefix_of_prefix_length_le (prefix_append p q) hstarts (Nat.le_of_lt hlt)))
  · left
    apply isPrefixOf_iff_prefix.mpr
    exact prefix_of_prefix_length_le hstarts (prefix_append p q) hge

lemma isPrefixOf_append {keyword p : List Char} (h : keyword.isPrefixOf p = true)
    (q : List Char) : keyword.isPrefixOf (p ++ q) = true := by
  have hstarts := isPrefixOf_iff_prefix.mp h
  apply isPrefixOf_iff_prefix.mpr
  exact hstarts.trans (prefix_append p q)

/-- What starts a comment once more text follows starts one already, or is the start of `<!--`. -/
lemma comment_append (h : "<!--".toList.isPrefixOf (p ++ q) = true) :
    "<!--".toList.isPrefixOf p = true ∨
      isPrefixAsciiCaseInsensitive p "<!--".toList = true ∧ byteLen p < 4 := by
  rcases prefix_append_cases h with h | ⟨n, hn, rfl⟩
  · exact .inl h
  · have hall : ∀ n < "<!--".toList.length,
        isPrefixAsciiCaseInsensitive ("<!--".toList.take n) "<!--".toList = true ∧
          byteLen ("<!--".toList.take n) < 4 := by decide
    exact .inr (hall n hn)

lemma toNat_toLower (d : Char) :
    d.toLower.toNat = if 0x41 ≤ d.toNat ∧ d.toNat ≤ 0x5a then d.toNat + 0x20 else d.toNat := by
  unfold Char.toLower
  split
  · rename_i h
    have hge : 0x41 ≤ d.toNat := h.1
    have hle : d.toNat ≤ 0x5a := h.2
    rw [if_pos ⟨hge, hle⟩]
    have : (d.val + ('a'.val - 'A'.val)).toNat = d.toNat + 0x20 := by
      rw [UInt32.toNat_add]
      have hval : d.val.toNat = d.toNat := rfl
      have hoff : ('a'.val - 'A'.val).toNat = 0x20 := by decide
      omega
    exact this
  · rename_i h
    rw [if_neg]
    rintro ⟨hge, hle⟩
    exact h ⟨hge, hle⟩

/-- The byte of an ASCII character. -/
lemma exists_byte_of_ascii {d : Char} (h : d.toNat < 0x80) :
    ∃ b : UInt8, String.utf8EncodeChar d = [b] ∧ b.toNat = d.toNat := by
  rcases utf8EncodeChar_cases d with ⟨b, hb, -, hval, -⟩ | ⟨-, hge, -⟩
  · exact ⟨b, hb, hval⟩
  · omega

lemma toNat_lowerByte {b : UInt8} (h : b.toNat < 0x80) :
    (lowerByte b).toNat = if 0x41 ≤ b.toNat ∧ b.toNat ≤ 0x5a then b.toNat + 0x20 else b.toNat := by
  unfold lowerByte
  split
  · rw [UInt8.toNat_add]
    have : (0x20 : UInt8).toNat = 0x20 := rfl
    omega
  · rfl

/-- A text that is a prefix of an ASCII keyword up to case has its bytes up to case. -/
lemma zip_all_of_lowerText {p keyword : List Char} (h : lowerText p <+: keyword)
    (hascii : ∀ d ∈ keyword, d.toNat < 0x80) :
    ((utf8 p).zip (utf8 keyword)).all
      (fun pair => decide (lowerByte pair.1 = lowerByte pair.2)) = true := by
  induction p generalizing keyword with
  | nil => rfl
  | cons d p ih =>
    obtain ⟨t, ht⟩ := h
    rw [lowerText, map_cons, cons_append, ← lowerText] at ht
    subst ht
    have hlow : d.toLower.toNat < 0x80 := hascii _ (by simp)
    have hval := toNat_toLower d
    have hd : d.toNat < 0x80 := by
      split_ifs at hval <;> omega
    obtain ⟨b, hb, hbn⟩ := exists_byte_of_ascii hd
    obtain ⟨b', hb', hbn'⟩ := exists_byte_of_ascii hlow
    rw [utf8_cons, utf8_cons, hb, hb', singleton_append, singleton_append,
      zip_cons_cons, all_cons, Bool.and_eq_true]
    refine ⟨decide_eq_true ?_, ih ⟨t, rfl⟩ fun x hx => hascii x (by simp [hx])⟩
    apply UInt8.toNat_inj.mp
    dsimp only
    rw [toNat_lowerByte (by omega), toNat_lowerByte (by omega), hbn, hbn', hval]
    split_ifs <;> omega

/-- What starts a doctype once more text follows starts one already, or is the start of its
keyword. -/
lemma doctype_append (h : startsAsciiCaseInsensitive (p ++ q) "<!doctype".toList = true) :
    startsAsciiCaseInsensitive p "<!doctype".toList = true ∨
      isPrefixAsciiCaseInsensitive p "<!doctype".toList = true ∧
        byteLen p < byteLen "<!doctype".toList := by
  have hbound := startsAsciiCaseInsensitive_boundary h
  unfold startsAsciiCaseInsensitive at h
  rcases hsplit : splitAtByte (p ++ q) (byteLen "<!doctype".toList) with _ | ⟨candidate, rest⟩
  · rw [hsplit] at h
    cases h
  · rw [hsplit] at h
    have heq : lowerText candidate = lowerText "<!doctype".toList := of_decide_eq_true h
    rcases Nat.lt_or_ge (byteLen p) (byteLen "<!doctype".toList) with hlt | hge
    · -- the text so far is the start of the candidate
      right
      obtain ⟨happ, hlen⟩ := splitAtByte_eq_some.mp hsplit
      have hstart : p <+: candidate := by
        rcases append_eq_append_iff.mp happ with ⟨m, hm, -⟩ | ⟨m, hm, -⟩
        · exact ⟨m, hm.symm⟩
        · rw [hm, byteLen_append] at hlt
          omega
      have hlower : lowerText p <+: "<!doctype".toList := by
        have hmap : lowerText p <+: lowerText candidate := hstart.map Char.toLower
        rw [heq] at hmap
        exact hmap
      refine ⟨?_, hlt⟩
      rw [isPrefixAsciiCaseInsensitive, Bool.and_eq_true]
      exact ⟨decide_eq_true (Nat.le_of_lt hlt), zip_all_of_lowerText hlower (by simp)⟩
    · left
      obtain ⟨x, y, rfl, hx⟩ := hbound.of_append hge
      rw [append_assoc, ← hx, splitAtByte_append] at hsplit
      cases hsplit
      unfold startsAsciiCaseInsensitive
      rw [← hx, splitAtByte_append]
      exact h

lemma startsAsciiCaseInsensitive_append {p keyword : List Char}
    (h : startsAsciiCaseInsensitive p keyword = true) (q : List Char) :
    startsAsciiCaseInsensitive (p ++ q) keyword = true := by
  obtain ⟨x, y, rfl, hx⟩ := startsAsciiCaseInsensitive_boundary h
  unfold startsAsciiCaseInsensitive at h ⊢
  rw [← hx, splitAtByte_append] at h
  rw [append_assoc, ← hx, splitAtByte_append]
  exact h

/-- **A round on markup that has ended does the same with more text.** -/
theorem consumeData_extends (hw : byteLen pending ≤ limits.maxTokenBytes) (hless : '<' ∈ pending) :
    Extends q (consumeData limits false c pending) (consumeData limits true c (pending ++ q)) := by
  unfold consumeData
  by_cases hstart : "<".toList.isPrefixOf pending = true
  · rw [hstart, isPrefixOf_append hstart q]
    simp only [Bool.not_true, Bool.false_eq_true, if_false, Bool.and_false, Bool.not_false,
      Bool.and_true]
    obtain ⟨rest, hrest⟩ := isPrefixOf_iff_prefix.mp hstart
    obtain rfl : pending = '<' :: rest := hrest.symm
    rcases rest with _ | ⟨d, rest⟩
    · exact .none _
    · by_cases hone : decide (byteLen ('<' :: d :: rest) = 1) = true
      · rw [if_pos hone]
        exact .none _
      · rw [if_neg hone]
        by_cases hwait : (isPrefixAsciiCaseInsensitive ('<' :: d :: rest) "<!--".toList &&
            decide (byteLen ('<' :: d :: rest) < 4)) = true
        · rw [if_pos hwait]
          exact .none _
        · rw [if_neg hwait]
          by_cases hcomment : "<!--".toList.isPrefixOf ('<' :: d :: rest) = true
          · rw [if_pos hcomment, if_pos (isPrefixOf_append hcomment q)]
            exact consumeComment_extends hw
          · have hcomment' : ¬"<!--".toList.isPrefixOf ('<' :: d :: rest ++ q) = true := by
              intro h
              rcases comment_append h with h | ⟨hpre, hlen⟩
              · exact hcomment h
              · exact hwait (by rw [hpre, decide_eq_true hlen]; rfl)
            rw [if_neg hcomment, if_neg hcomment']
            by_cases hwait' : (isPrefixAsciiCaseInsensitive ('<' :: d :: rest)
                "<!doctype".toList &&
                decide (byteLen ('<' :: d :: rest) < byteLen "<!doctype".toList)) = true
            · rw [if_pos hwait']
              exact .none _
            · rw [if_neg hwait']
              by_cases hdoc :
                  startsAsciiCaseInsensitive ('<' :: d :: rest) "<!doctype".toList = true
              · rw [if_pos hdoc, if_pos (startsAsciiCaseInsensitive_append hdoc q)]
                exact completeTag_extends hw fun _ => .bind _ fun _ => .consumed _ _ _
              · have hdoc' : ¬startsAsciiCaseInsensitive ('<' :: d :: rest ++ q)
                    "<!doctype".toList = true := by
                  intro h
                  rcases doctype_append h with h | ⟨hpre, hlen⟩
                  · exact hdoc h
                  · exact hwait' (by rw [hpre, decide_eq_true hlen]; rfl)
                rw [if_neg hdoc, if_neg hdoc']
                exact .ite (consumeBogusComment_extends hw)
                  (.ite (completeTag_extends hw fun _ => .bind _ fun _ => .consumed _ _ _)
                    (consumeTagOpen_extends hw))
  · -- text up to the `<`
    have hstart' : ¬"<".toList.isPrefixOf (pending ++ q) = true := by
      intro h
      rcases prefix_append_cases h with h | ⟨n, hn, hnil⟩
      · exact hstart h
      · have hn : n < 1 := hn
        obtain rfl : n = 0 := by omega
        rw [hnil] at hless
        cases hless
    rw [Bool.not_eq_true] at hstart hstart'
    rw [hstart, hstart']
    rcases hfind : findChar '<' pending with _ | index
    · exact absurd hless (findChar_eq_none.mp hfind)
    · exact consumeText_extends hfind

/-! ## Rounds that emit text up to a cut -/

lemma emitCharacters_eq (c : Cursor) (a r : List Char) (decodeEntities : Bool) :
    emitCharacters c (a ++ r) (byteLen a) decodeEntities =
      (emitText decodeEntities c.position a).mapValue fun tokens =>
        some (⟨c.position.advancedBy a, c.textMode⟩, r, tokens) := by
  rw [emitCharacters, splitText_append, silent_ok, pure_bind,
    bind_pure_eq_mapValue, emitText, mapValue_mapValue]
  rfl

/-- The end of a round that emits a text `x`, and then the rounds on the rest. -/
lemma finish_emit {c : Cursor} {x z : List Char} (hx : x ≠ [])
    (h : consume limits true c (x ++ z) = emitCharacters c (x ++ z) (byteLen x) decodeEntities)
    (he : emitText decodeEntities c.position x = .done tokens m) :
    (tokenizerMachine limits).finish c (x ++ z) =
      (((tokenizerMachine limits).finish ⟨c.position.advancedBy x, c.textMode⟩ z).mapValue
        (tokens ++ ·)).after m := by
  rw [Machine.finish_eq c (by simp [hx])]
  change consume limits true c (x ++ z) >>= _ = _
  rw [h, emitCharacters_eq, he]
  rfl

/-- **Text emitted up to a clean cut**: the end of input, with the rest `x ++ z` of the input present,
emits the text before the cut together with `x`; from the cut, it emits `x`. -/
theorem finish_textCut {c : Cursor} {a x z : List Char} (ha : a ≠ [])
    (hclean : CleanCut decodeEntities a (x ++ z))
    (hwhole : consume limits true c (a ++ x ++ z) =
      emitCharacters c (a ++ x ++ z) (byteLen (a ++ x)) decodeEntities)
    (hrest : x = [] ∨ consume limits true ⟨c.position.advancedBy a, c.textMode⟩ (x ++ z) =
      emitCharacters ⟨c.position.advancedBy a, c.textMode⟩ (x ++ z) (byteLen x) decodeEntities)
    (he : emitText decodeEntities c.position a = .done tokens m) :
    ((tokenizerMachine limits).finish c (a ++ (x ++ z))).mapValue coalesce =
      (((tokenizerMachine limits).finish ⟨c.position.advancedBy a, c.textMode⟩ (x ++ z)).mapValue
        fun more => coalesce (tokens ++ more)).after m := by
  obtain ⟨t₁, m₁, t₂, m₂, t, h₁, h₂, ht, hmerge⟩ :=
    emitText_append (hclean.of_append rfl) c.position
  rw [he] at h₁
  cases h₁
  have hpos : c.position.advancedBy (a ++ x) = (c.position.advancedBy a).advancedBy x :=
    c.position.advancedBy_append (hclean.of_append rfl).newline
  -- from the cut: the text `x`, if there is any
  have hcut : (tokenizerMachine limits).finish ⟨c.position.advancedBy a, c.textMode⟩ (x ++ z) =
      (((tokenizerMachine limits).finish
        ⟨(c.position.advancedBy a).advancedBy x, c.textMode⟩ z).mapValue (t₂ ++ ·)).after m₂ := by
    by_cases hx : x = []
    · subst hx
      rw [emitText_nil] at h₂
      cases h₂
      rw [nil_append, SourcePosition.advancedBy_nil, after_nil]
      cases (tokenizerMachine limits).finish ⟨c.position.advancedBy a, c.textMode⟩ z <;> rfl
    · exact finish_emit hx (hrest.resolve_left hx) h₂
  rw [← append_assoc, finish_emit (by simp [ha]) hwhole ht, hcut, hpos]
  rcases (tokenizerMachine limits).finish ⟨(c.position.advancedBy a).advancedBy x, c.textMode⟩ z with
    ⟨more, m'⟩ | h
  · simp only [mapValue_done, after_done, hmerge more, append_assoc]
  · rfl

/-- The run to the end of input from `c` on `p` gives the tokens of a round, then those of the run
from where the round ended, on `p'`; `q` is the rest of the input. -/
def Resumes (limits : TokenizerLimits) (q : List Char) (c : Cursor) (p : List Char) (c' : Cursor)
    (p' : List Char) (tokens : List SpannedToken) (m : List ParseError) : Prop :=
  ((tokenizerMachine limits).finish c (p ++ q)).mapValue coalesce =
    (((tokenizerMachine limits).finish c' (p' ++ q)).mapValue
      fun more => coalesce (tokens ++ more)).after m

/-- At the end of input, a round reads the text `a` with the first part `x` of what follows it, and
a round after `a` reads `x`. -/
def Stops (limits : TokenizerLimits) (decodeEntities : Bool) (c : Cursor) (a y : List Char) :
    Prop :=
  ∃ x z, y = x ++ z ∧
    consume limits true c (a ++ x ++ z) =
      emitCharacters c (a ++ x ++ z) (byteLen (a ++ x)) decodeEntities ∧
    (x = [] ∨ consume limits true ⟨c.position.advancedBy a, c.textMode⟩ (x ++ z) =
      emitCharacters ⟨c.position.advancedBy a, c.textMode⟩ (x ++ z) (byteLen x) decodeEntities)

/-- What is left to show for a round that emits text up to a cut: how a round at the end of input
reads the text before the cut and the text after it. -/
lemma progress_textCut {c c' : Cursor} {a r q p' : List Char} (ha : a ≠ [])
    (hclean : CleanCut decodeEntities a (r ++ q))
    (hround : emitCharacters c (a ++ r) (byteLen a) decodeEntities =
      .done (some (c', p', tokens)) m) (hstop : Stops limits decodeEntities c a (r ++ q)) :
    Resumes limits q c (a ++ r) c' p' tokens m := by
  rw [emitCharacters_eq] at hround
  rcases he : emitText decodeEntities c.position a with ⟨t, m₁⟩ | h
  · rw [he] at hround
    cases hround
    obtain ⟨x, z, hxz, hwhole, hrest⟩ := hstop
    rw [Resumes, append_assoc, hxz]
    exact finish_textCut ha (hxz ▸ hclean) hwhole hrest he
  · rw [he] at hround
    cases hround

/-! ### Plain text -/

lemma consume_plainText {c : Cursor} (hc : c.textMode = some .plainText) {x : List Char}
    (hx : x ≠ []) : consume limits true c x = emitCharacters c x (byteLen x) false := by
  have hlen : byteLen x ≠ 0 := byteLen_eq_zero.not.mpr hx
  simp only [consume, hc, consumeTextMode, if_true, pure_bind]
  rw [if_neg hlen]

lemma progress_plainText {c c' : Cursor} {p q p' : List Char} (hc : c.textMode = some .plainText)
    (h : consume limits false c p = .done (some (c', p', tokens)) m) :
    Resumes limits q c p c' p' tokens m := by
  obtain ⟨a, r, rfl, hsafe, hclean⟩ := safeStreamTextPrefix_spec p false
  simp only [consume, hc, consumeTextMode, Bool.false_eq_true, if_false, hsafe, silent_ok,
    pure_bind] at h
  by_cases hlen : byteLen a = 0
  · rw [if_pos hlen] at h
    cases h
  · rw [if_neg hlen] at h
    have ha : a ≠ [] := fun hnil => hlen (by rw [hnil]; rfl)
    refine progress_textCut ha (hclean q) h ⟨r ++ q, [], by simp, ?_, ?_⟩
    · rw [append_nil]
      exact consume_plainText hc (by simp [ha])
    · by_cases hrest : r ++ q = []
      · exact .inl hrest
      · right
        rw [append_nil]
        exact consume_plainText (c := ⟨c.position.advancedBy a, c.textMode⟩) hc hrest

/-- A round that found its end, in a run to the end of input. -/
lemma progress_extends {c c' : Cursor} {p q p' : List Char} (hp : p ≠ [])
    (hext : Extends q (consume limits false c p) (consume limits true c (p ++ q)))
    (h : consume limits false c p = .done (some (c', p', tokens)) m) :
    Resumes limits q c p c' p' tokens m := by
  rw [Resumes, Machine.finish_eq c (by simp [hp])]
  change (consume limits true c (p ++ q) >>= _).mapValue coalesce = _
  rw [hext _ _ _ _ h, done_bind, mapValue_after]
  rw [mapValue_mapValue]

/-! ### Text up to an end tag -/

/-- The text mode ends at an end tag, with or without references before it. -/
def WaitsFor (c : Cursor) (endTag : List Char) (decodeEntities : Bool) : Prop :=
  c.textMode = some (if decodeEntities then .rcData endTag else .rawText endTag)

section

variable {c : Cursor} (hc : WaitsFor c endTag decodeEntities) (eof : Bool)
include hc

lemma consume_waitsFor (p : List Char) :
    consume limits eof c p = consumeUntilEndTag eof c endTag decodeEntities p := by
  unfold consume
  rw [hc]
  cases decodeEntities <;> rfl

lemma consume_endTag_error {h : Halt} (herror : endTagIn endTag p = .error h) :
    consume limits eof c p = .halted h := by
  rw [consume_waitsFor hc, consumeUntilEndTag, findAppropriateEndTag_eq, herror]
  rfl

lemma consume_endTag_some {index : ℕ} (hsome : endTagIn endTag p = .ok (some index)) :
    consume limits eof c p = if index = 0 then pure (some (⟨c.position, none⟩, p, []))
      else emitCharacters c p index decodeEntities := by
  rw [consume_waitsFor hc, consumeUntilEndTag, findAppropriateEndTag_eq, hsome, silent_ok,
    pure_bind]

end

/-- How the end of input reads text that starts with no end tag. -/
lemma exists_stop {c : Cursor} {endTag a y : List Char}
    (hc : WaitsFor c endTag decodeEntities) (ha : a ≠ []) (hy : y ≠ [])
    (hsearch : endTagIn endTag (a ++ y) = shiftBy (byteLen a) (endTagIn endTag y))
    {found : Option ℕ} (hfound : endTagIn endTag y = .ok found) :
    Stops limits decodeEntities c a y := by
  have hlen : byteLen a ≠ 0 := byteLen_eq_zero.not.mpr ha
  have hc' : WaitsFor ⟨c.position.advancedBy a, c.textMode⟩ endTag decodeEntities := hc
  rw [hfound] at hsearch
  rcases found with _ | index
  · -- no end tag: all of the text
    have hall : ∀ {c : Cursor} {w : List Char}, WaitsFor c endTag decodeEntities →
        endTagIn endTag w = .ok none →
        consume limits true c w = emitCharacters c w (byteLen w) decodeEntities := by
      intro c w hc hnone
      rw [consume_waitsFor hc, consumeUntilEndTag, findAppropriateEndTag_eq, hnone,
        silent_ok, pure_bind]
      rfl
    refine ⟨y, [], by simp, ?_, .inr ?_⟩
    · rw [append_nil]
      exact hall hc hsearch
    · rw [append_nil]
      exact hall hc' hfound
  · obtain ⟨x, after, rfl, rfl⟩ := endTagIn_eq_some hfound
    refine ⟨x, '<' :: '/' :: after, rfl, ?_, ?_⟩
    · rw [shiftBy_some, ← append_assoc] at hsearch
      rw [consume_endTag_some hc true hsearch, if_neg (by omega), byteLen_append]
    · by_cases hx : x = []
      · exact .inl hx
      · right
        rw [consume_endTag_some hc' true hfound, if_neg (byteLen_eq_zero.not.mpr hx)]

lemma progress_endTag {c c' : Cursor} {endTag p q p' : List Char} (hp : p ≠ [])
    (hc : WaitsFor c endTag decodeEntities)
    (h : consume limits false c p = .done (some (c', p', tokens)) m) :
    Resumes limits q c p c' p' tokens m := by
  rcases hfound : endTagIn endTag p with r | _ | index
  · rw [consume_endTag_error hc false hfound] at h
    cases h
  · -- nothing found yet: text is emitted, and enough of it held back
    have hround : consume limits false c p = _ := consume_waitsFor hc false p
    rw [h, consumeUntilEndTag, findAppropriateEndTag_eq, hfound, silent_ok, pure_bind] at hround
    by_cases hretain : byteLen p ≤ byteLen endTag + 4
    · rw [if_pos hretain] at hround
      cases hround
    · rw [if_neg hretain] at hround
      obtain ⟨a, r, rfl, hlen, hr, hclean⟩ :=
        streamedTextLength_spec (Nat.le_of_lt (Nat.lt_of_not_le hretain)) decodeEntities
      rw [hlen, silent_ok, pure_bind] at hround
      by_cases hzero : byteLen a = 0
      · rw [if_pos hzero] at hround
        cases hround
      · rw [if_neg hzero] at hround
        have ha : a ≠ [] := fun hnil => hzero (by rw [hnil]; rfl)
        have hy : r ++ q ≠ [] := by
          intro hnil
          rw [(append_eq_nil_iff.mp hnil).1, byteLen_nil] at hr
          omega
        have hsearch := endTagIn_append_cut (by omega) hfound q
        rcases hrest : endTagIn endTag (r ++ q) with e | found
        · -- the search panics after the cut, so it does from the start
          rw [hrest, shiftBy_error] at hsearch
          obtain ⟨rfl, rfl⟩ : c' = ⟨c.position.advancedBy a, c.textMode⟩ ∧ p' = r := by
            rw [emitCharacters_eq] at hround
            rcases he : emitText decodeEntities c.position a with ⟨t, m₁⟩ | e
            · rw [he] at hround
              cases hround
              exact ⟨rfl, rfl⟩
            · rw [he] at hround
              cases hround
          have hhalt : ∀ {c : Cursor} {w : List Char}, WaitsFor c endTag decodeEntities →
              w ≠ [] → endTagIn endTag w = .error e →
              (tokenizerMachine limits).finish c w = .halted e := by
            intro c w hc hw herror
            rw [Machine.finish_eq c hw]
            change consume limits true c w >>= _ = _
            rw [consume_endTag_error hc true herror]
            rfl
          rw [Resumes, append_assoc, hhalt hc (by simp [ha]) hsearch,
            hhalt (c := ⟨c.position.advancedBy a, c.textMode⟩) hc hy hrest]
          rfl
        · exact progress_textCut ha (hclean q) hround.symm (exists_stop hc ha hy hsearch hrest)
  · refine progress_extends hp ?_ h
    have hmore : endTagIn endTag (p ++ q) = .ok (some index) := by
      rw [endTagIn_append (by rw [hfound]; simp), hfound]
    rw [consume_endTag_some hc false hfound, consume_endTag_some hc true hmore]
    exact .ite (.consumed _ _ _) (emitCharacters_extends _)

/-! ### Text in data -/

/-- At the end of input, data up to the next `<` is emitted. -/
lemma consume_text {c : Cursor} (hc : c.textMode = none) {x z : List Char} (hx : x ≠ [])
    (hless : '<' ∉ x) (hz : z = [] ∨ ∃ t, z = '<' :: t) :
    consume limits true c (x ++ z) = emitCharacters c (x ++ z) (byteLen x) true := by
  have hstart : "<".toList.isPrefixOf (x ++ z) = false := by
    obtain ⟨d, x, rfl⟩ := exists_cons_of_ne_nil hx
    have hd : '<' ≠ d := fun h => hless (mem_cons.mpr (.inl h))
    simp [isPrefixOf, hd]
  have hlen : textLength true (x ++ z) = pure (byteLen x) := by
    unfold textLength
    rcases hz with rfl | ⟨t, rfl⟩
    · rw [append_nil, findChar_eq_none.mpr hless]
      rfl
    · rw [findChar_eq_some.mpr ⟨x, t, rfl, hless, rfl⟩]
  rw [consume, hc]
  rw [consumeData, hstart, if_pos (by simp), consumeText, hlen, pure_bind,
    if_neg (byteLen_eq_zero.not.mpr hx)]

lemma progress_data {c c' : Cursor} {p q p' : List Char}
    (hp : p ≠ []) (hw : byteLen p ≤ limits.maxTokenBytes) (hc : c.textMode = none)
    (h : consume limits false c p = .done (some (c', p', tokens)) m) :
    Resumes limits q c p c' p' tokens m := by
  by_cases hless : '<' ∈ p
  · refine progress_extends hp ?_ h
    simp only [consume, hc]
    exact consumeData_extends hw hless
  · -- text without an end in sight
    have hstart : "<".toList.isPrefixOf p = false := by
      obtain ⟨d, t, rfl⟩ := exists_cons_of_ne_nil hp
      have hd : '<' ≠ d := fun h => hless (mem_cons.mpr (.inl h))
      simp [isPrefixOf, hd]
    obtain ⟨a, r, rfl, hsafe, hclean⟩ := safeStreamTextPrefix_spec p true
    simp only [consume, hc, consumeData, hstart, Bool.not_false, if_true, consumeText, textLength,
      findChar_eq_none.mpr hless, Bool.false_eq_true, if_false, hsafe, silent_ok, pure_bind] at h
    by_cases hzero : byteLen a = 0
    · rw [if_pos hzero] at h
      cases h
    · rw [if_neg hzero] at h
      have ha : a ≠ [] := fun hnil => hzero (by rw [hnil]; rfl)
      rw [mem_append, not_or] at hless
      refine progress_textCut ha (hclean q) h ?_
      -- the text goes on up to the next `<`
      obtain ⟨x, z, hxz, hx, hz⟩ : ∃ x z, r ++ q = x ++ z ∧ '<' ∉ x ∧
          (z = [] ∨ ∃ t, z = '<' :: t) := by
        by_cases hmem : '<' ∈ r ++ q
        · rcases hfind : findChar '<' (r ++ q) with _ | index
          · exact absurd hmem (findChar_eq_none.mp hfind)
          · obtain ⟨x, t, heq, hx, -⟩ := findChar_eq_some.mp hfind
            exact ⟨x, '<' :: t, heq, hx, .inr ⟨t, rfl⟩⟩
        · exact ⟨r ++ q, [], by simp, hmem, .inl rfl⟩
      refine ⟨x, z, hxz, ?_, ?_⟩
      · exact consume_text hc (by simp [ha]) (by simp [hless.1, hx]) hz
      · by_cases hnil : x = []
        · exact .inl hnil
        · exact .inr (consume_text (c := ⟨c.position.advancedBy a, c.textMode⟩) hc hnil hx hz)

/-! ## Rounds that wait -/

/-- A round that waits for more input reports nothing. -/
def Quiet (x : Report ParseError Round) : Prop := ∀ m, x = .done none m → m = []

namespace Quiet

variable {x y : Report ParseError Round} {α : Type}

lemma pure (r : Round) : Quiet (pure r) := by
  intro m h
  cases h
  rfl

lemma of_gives (h : x.Gives (· ≠ none)) : Quiet x := by
  intro m hx
  exact absurd rfl (h _ _ hx)

lemma ite {cond : Prop} [Decidable cond] (hx : Quiet x) (hy : Quiet y) :
    Quiet (if cond then x else y) := by
  split
  · exact hx
  · exact hy

lemma silent {z : Except Halt α} {f : α → Report ParseError Round} (h : ∀ a, Quiet (f a)) :
    Quiet (.silent z >>= f) := by
  rcases z with r | a
  · intro m hm
    cases hm
  · rw [silent_ok, pure_bind]
    exact h a

end Quiet

variable (eof : Bool)

lemma emitCharacters_quiet (decodeEntities : Bool) :
    (emitCharacters c pending length decodeEntities).Gives (· ≠ none) :=
  .seq fun _ => .seq fun _ => .pure (by simp [consumePrefix])

lemma commentToken_quiet (contentEnd : ℕ) :
    (commentToken c pending contentEnd length).Gives (· ≠ none) :=
  .seq fun _ => .seq fun _ => .pure (by simp [consumePrefix])

lemma bogusCommentToken_quiet : (bogusCommentToken c pending length).Gives (· ≠ none) :=
  .seq fun _ => .seq fun _ => .seq fun _ => .pure (by simp [consumePrefix])

lemma overLimit_quiet : (overLimit c pending).Gives (· ≠ none) :=
  .seq fun _ => .seq fun _ => .pure (by simp [consumePrefix])

lemma completeTag_quiet (hparse : ∀ parts, (parse parts).Gives (· ≠ none)) :
    Quiet (completeTag limits eof c pending parse) := by
  unfold completeTag
  split
  · exact .of_gives (.seq hparse)
  · exact .ite (.pure none)
      (.of_gives (.seq fun _ => .seq fun _ => .pure (by simp [consumePrefix])))

lemma consumeUntilEndTag_quiet (endTag : List Char) (decodeEntities : Bool) :
    Quiet (consumeUntilEndTag eof c endTag decodeEntities pending) := by
  refine .silent fun found => ?_
  rcases found with _ | index
  · exact .ite (.of_gives (emitCharacters_quiet _)) (.ite (.pure none)
      (.silent fun _ => .ite (.pure none) (.of_gives (emitCharacters_quiet _))))
  · exact .ite (.pure _) (.of_gives (emitCharacters_quiet _))

lemma consumeTextMode_quiet (mode : TextMode) : Quiet (consumeTextMode eof c mode pending) := by
  cases mode with
  | rawText endTag => exact consumeUntilEndTag_quiet eof endTag _
  | rcData endTag => exact consumeUntilEndTag_quiet eof endTag _
  | plainText =>
    have hnext : ∀ length, Quiet
        (if length = 0 then pure none else emitCharacters c pending length false) :=
      fun _ => .ite (.pure none) (.of_gives (emitCharacters_quiet _))
    rw [consumeTextMode]
    cases eof with
    | true =>
      rw [if_pos rfl, pure_bind]
      exact hnext _
    | false =>
      rw [if_neg (by simp)]
      exact .silent hnext

lemma consumeText_quiet : Quiet (consumeText eof c pending) := by
  have hnext : ∀ length, Quiet
      (if length = 0 then pure none else emitCharacters c pending length true) :=
    fun _ => .ite (.pure none) (.of_gives (emitCharacters_quiet _))
  unfold consumeText textLength
  split
  · rw [pure_bind]
    exact hnext _
  · cases eof with
    | true =>
      rw [if_pos rfl, pure_bind]
      exact hnext _
    | false =>
      exact .silent hnext

lemma consumeData_quiet : Quiet (consumeData limits eof c pending) := by
  have hdoctype : Quiet (consumeDoctype limits eof c pending) :=
    completeTag_quiet eof fun _ => .seq fun _ => .pure (by simp [consumePrefix])
  have hendTag : Quiet (consumeEndTag limits eof c pending) :=
    completeTag_quiet eof fun _ => .seq fun _ => .pure (by simp [consumePrefix])
  have hstartTag : Quiet (consumeStartTag limits eof c pending) :=
    completeTag_quiet eof fun _ => .seq fun _ => .pure (by simp)
  have hcomment : Quiet (consumeComment limits eof c pending) := by
    refine .silent fun parts => ?_
    split
    · exact .of_gives (commentToken_quiet _)
    · exact .ite (.of_gives (.seq fun _ => commentToken_quiet _))
        (.ite (.pure none) (.of_gives overLimit_quiet))
  have hbogus : Quiet (consumeBogusComment limits eof c pending) := by
    unfold consumeBogusComment
    split
    · exact .of_gives bogusCommentToken_quiet
    · exact .ite (.of_gives bogusCommentToken_quiet)
        (.ite (.pure none) (.of_gives overLimit_quiet))
  have hless : Quiet (consumeLessThan c pending) :=
    .of_gives (.seq fun _ => emitCharacters_quiet _)
  have hopen : Quiet (consumeTagOpen limits eof c pending) := by
    refine .silent fun parts => ?_
    split
    · exact .ite hstartTag hless
    · exact .ite hless (.pure none)
  exact .ite (consumeText_quiet eof) (.ite (.pure none) (.ite (.pure none) (.ite hcomment
    (.ite (.pure none) (.ite hdoctype (.ite hbogus (.ite hendTag hopen)))))))

/-! ## Chunk invariance -/

/-- **The rounds of the tokenizer are cuttable**, as long as the input is within the limit. -/
theorem tokenizerMachine_cuttable (limits : TokenizerLimits) :
    (tokenizerMachine limits).Cuttable coalesce fun p => byteLen p ≤ limits.maxTokenBytes where
  congr := coalesce_congr
  within_rest := by
    intro c p q c' p' tokens m hp hw hr
    obtain ⟨a, rfl, -⟩ := consume_progress hp limits false _ m hr c' p' tokens rfl
    rw [append_assoc, byteLen_append] at hw
    omega
  idle := by
    intro c p m hr
    change consume limits false c p = _ at hr
    unfold consume at hr
    split at hr
    · exact consumeTextMode_quiet false _ m hr
    · exact consumeData_quiet false m hr
  halt := by
    intro c p q h hp hw hr
    obtain ⟨rfl, endTag, hmode, hstraddle⟩ := (consume_eq_halted limits false).mp hr
    have herror : endTagIn endTag p = .error sliceError := endTagIn_eq_error.mpr ⟨rfl, hstraddle⟩
    have hmore : endTagIn endTag (p ++ q) = .error sliceError := by
      rw [endTagIn_append (by rw [herror]; simp), herror]
    have hhalt : consume limits true c (p ++ q) = .halted sliceError :=
      (consume_eq_halted limits true).mpr ⟨rfl, endTag, hmode, (endTagIn_eq_error.mp hmore).2⟩
    rw [Machine.finish_eq c (by simp [hp])]
    change consume limits true c (p ++ q) >>= _ = _
    rw [hhalt]
    rfl
  progress := by
    intro c p q c' p' tokens m hp hw hr
    rcases hmode : c.textMode with _ | endTag | endTag | _
    · refine progress_data hp ?_ hmode hr
      rw [byteLen_append] at hw
      omega
    · have hwaits : WaitsFor c endTag false := hmode
      exact progress_endTag hp hwaits hr
    · have hwaits : WaitsFor c endTag true := hmode
      exact progress_endTag hp hwaits hr
    · exact progress_plainText hmode hr

end

namespace Tokenizer

/-- What a run shows: its tokens, adjacent text merged, and its errors, or that it panics. -/
def observed (o : Outcome Tokenizer TokenizerStateError (List SpannedToken)) :
    Outcome (List ParseError) TokenizerStateError (List SpannedToken) :=
  o.trimap coalesce id (·.errors)

/-- What a run shows is the view of the run of the machine. -/
lemma observed_feedAll (limits : TokenizerLimits) (chunks : List (List Char)) :
    observed (feedAll chunks (Tokenizer.new limits)) =
      match ((tokenizerMachine limits).runFrom {} [] chunks).mapValue coalesce with
      | .done tokens errors => .ok tokens errors
      | .halted h => .halt h := by
  have hrun := feedAll_eq (t := Tokenizer.new limits) rfl chunks
  change match (tokenizerMachine limits).runFrom {} [] chunks with
    | .done tokens errors => _
    | .halted h => _ at hrun
  rcases hr : (tokenizerMachine limits).runFrom {} [] chunks with ⟨tokens, errors⟩ | h
  · rw [hr] at hrun
    obtain ⟨t, hok, herrors⟩ := hrun
    have herrors : t.errors = errors := herrors
    rw [hok, ← herrors]
    rfl
  · rw [hr] at hrun
    rw [hrun]
    rfl

/-- **Chunk invariance of the tokenizer**: however a source within the limit is cut into chunks,
feeding them and finishing gives the same merged tokens with the same spans and the same errors as
feeding the whole source, or both runs panic. -/
theorem feedAll_chunks (limits : TokenizerLimits) (source : List Char)
    (hlen : byteLen source ≤ limits.maxTokenBytes) (chunks : List (List Char))
    (hsplit : chunks.flatten = source) :
    observed (feedAll chunks (Tokenizer.new limits)) =
      observed (feedAll [source] (Tokenizer.new limits)) := by
  have hrun : ∀ cs : List (List Char), cs.flatten = source →
      ((tokenizerMachine limits).runFrom {} [] cs).mapValue coalesce =
        ((tokenizerMachine limits).finish {} source).mapValue coalesce := by
    intro cs hcs
    have := (tokenizerMachine_cuttable limits).runFrom_eq_finish cs (s := {}) (p := [])
      (by rw [List.nil_append, hcs]; exact hlen)
    rwa [List.nil_append, hcs] at this
  rw [observed_feedAll, observed_feedAll, hrun chunks hsplit, hrun [source] (by simp)]

/-- A reference and a CRLF, each cut in two. -/
theorem feedAll_chunks_reference :
    observed (feedAll ["a&a".toList, "mp;b\r".toList, "\nc".toList] (Tokenizer.new .default)) =
      observed (feedAll ["a&amp;b\r\nc".toList] (Tokenizer.new .default)) :=
  feedAll_chunks .default "a&amp;b\r\nc".toList (by decide) _ (by decide)

end Tokenizer

end WildBuzzard.Parser
