import WildBuzzard.Parser.Tokenizer

/-!
# Where the tokenizer cuts its text

The searches and length computations of the tokenizer, each with one specification in terms of the
pending text instead of byte offsets.

* `findAppropriateEndTag_eq`: the search for an end tag is `endTagIn`, a recursion over the
  characters. **It panics exactly if the name would end inside a character at a candidate that comes
  before any appropriate end tag** (`endTagIn_eq_error`, `Straddles`).
* `CleanCut`: a cut at which text can be emitted in two pieces. **All lengths that `feed` emits are
  such cuts whatever text follows** (`safeStreamTextPrefix_spec`, `streamedTextLength_spec`).
* `findTagEnd_spec`: the end of a tag is a `>` of the text.
* What is found stays found when text is appended (`endTagIn_append`, `findTagEnd_append`), and
  text retained for an end tag is enough (`endTagIn_append_cut`).
-/

namespace WildBuzzard.Parser

open Lib List

/-! ## The search for an end tag -/

variable {endTag t : List Char} {c : Char} {r : Except Halt (Option ℕ)}

/-- Move what a search found by an offset. -/
def shiftBy (k : ℕ) (r : Except Halt (Option ℕ)) : Except Halt (Option ℕ) := r.map (·.map (k + ·))

@[simp] lemma shiftBy_none (k : ℕ) : shiftBy k (.ok none) = .ok none := rfl

@[simp] lemma shiftBy_some (k i : ℕ) : shiftBy k (.ok (some i)) = .ok (some (k + i)) := rfl

@[simp] lemma shiftBy_error (k : ℕ) (h : Halt) : shiftBy k (.error h) = .error h := rfl

lemma shiftBy_shiftBy (j k : ℕ) (r : Except Halt (Option ℕ)) :
    shiftBy j (shiftBy k r) = shiftBy (j + k) r := by
  rcases r with h | _ | i
  · rfl
  · rfl
  · simp [Nat.add_assoc]

@[simp] lemma shiftBy_zero (r : Except Halt (Option ℕ)) : shiftBy 0 r = r := by
  rcases r with h | _ | i
  · rfl
  · rfl
  · simp

lemma shiftBy_eq_none {k : ℕ} : shiftBy k r = .ok none ↔ r = .ok none := by
  rcases r with h | _ | i <;> simp

lemma shiftBy_eq_some {k i : ℕ} :
    shiftBy k r = .ok (some i) ↔ ∃ j, r = .ok (some j) ∧ k + j = i := by
  rcases r with h | _ | j <;> simp

lemma shiftBy_eq_error {k : ℕ} {h : Halt} : shiftBy k r = .error h ↔ r = .error h := by
  rcases r with h | _ | i <;> simp

/-- The name of the end tag and the text after it: is it the right name, and is it complete? -/
def isAppropriate (endTag : List Char) (parts : List Char × List Char) : Bool :=
  eqIgnoreAsciiCase parts.1 endTag && byteAt endsTagName (utf8 parts.2) 0

/-- The first appropriate end tag of a text, by recursion over its characters. -/
def endTagIn (endTag : List Char) : List Char → Except Halt (Option ℕ)
  | [] => .ok none
  | '<' :: '/' :: after =>
    if byteLen after < byteLen endTag then .ok none
    else do
      let parts ← splitText after (byteLen endTag)
      if isAppropriate endTag parts then .ok (some 0) else shiftBy 2 (endTagIn endTag after)
  | c :: rest => shiftBy c.utf8Size (endTagIn endTag rest)

/-- A character that does not open a candidate. -/
lemma endTagIn_cons {endTag rest : List Char} (h : ¬"</".toList.isPrefixOf (c :: rest)) :
    endTagIn endTag (c :: rest) = shiftBy c.utf8Size (endTagIn endTag rest) := by
  rw [endTagIn]
  rintro after rfl rfl
  exact h rfl

/-- A candidate. -/
lemma endTagIn_candidate (endTag after : List Char) :
    endTagIn endTag ('<' :: '/' :: after) = if byteLen after < byteLen endTag then .ok none
      else splitText after (byteLen endTag) >>= fun parts =>
        if isAppropriate endTag parts then .ok (some 0) else shiftBy 2 (endTagIn endTag after) := by
  rw [endTagIn]

/-- The text is a candidate, or its first character opens none. -/
lemma candidate_or (t : List Char) :
    t = [] ∨ (∃ after, t = '<' :: '/' :: after) ∨
      ∃ c rest, t = c :: rest ∧ ¬"</".toList.isPrefixOf (c :: rest) := by
  rcases t with _ | ⟨c, rest⟩
  · exact .inl rfl
  · by_cases h : "</".toList.isPrefixOf (c :: rest)
    · obtain ⟨after, hafter⟩ := isPrefixOf_iff_prefix.mp h
      exact .inr (.inl ⟨after, hafter.symm⟩)
    · exact .inr (.inr ⟨c, rest, rfl, h⟩)

lemma byteLen_candidate (after : List Char) :
    byteLen ('<' :: '/' :: after) = 2 + byteLen after := by
  have hless : '<'.utf8Size = 1 := rfl
  have hslash : '/'.utf8Size = 1 := rfl
  rw [byteLen_cons, byteLen_cons]
  omega

/-- A text too short for an end tag has none. -/
lemma endTagIn_short (h : byteLen t < 2 + byteLen endTag) : endTagIn endTag t = .ok none := by
  induction t with
  | nil => rw [endTagIn]
  | cons c rest ih =>
    rcases candidate_or (c :: rest) with hnil | ⟨after, hafter⟩ | ⟨c', rest', heq, hno⟩
    · cases hnil
    · rw [hafter, byteLen_candidate] at h
      rw [hafter, endTagIn_candidate, if_pos (by omega)]
    · cases heq
      rw [byteLen_cons] at h
      rw [endTagIn_cons hno, ih (by omega)]
      rfl

lemma endTagIn_of_findText_none (h : findText "</".toList t = none) :
    endTagIn endTag t = .ok none := by
  induction t with
  | nil => rw [endTagIn]
  | cons c rest ih =>
    rw [findText] at h
    split_ifs at h with hstarts
    rw [endTagIn_cons hstarts, ih (Option.map_eq_none_iff.mp h)]
    rfl

variable {i : ℕ}

/-- The search starts at the first candidate. -/
lemma endTagIn_of_findText (endTag : List Char) {t : List Char}
    (h : findText "</".toList t = some i) :
    ∃ u after, t = u ++ '<' :: '/' :: after ∧ byteLen u = i ∧
      endTagIn endTag t = shiftBy i (endTagIn endTag ('<' :: '/' :: after)) := by
  induction t generalizing i with
  | nil => cases h
  | cons c rest ih =>
    rw [findText] at h
    split_ifs at h with hstarts
    · cases h
      obtain ⟨after, hafter⟩ := isPrefixOf_iff_prefix.mp hstarts
      refine ⟨[], after, hafter.symm, rfl, ?_⟩
      rw [← hafter, shiftBy_zero]
      rfl
    · obtain ⟨j, hj, rfl⟩ := Option.map_eq_some_iff.mp h
      obtain ⟨u, after, rfl, hu, heq⟩ := ih hj
      refine ⟨c :: u, after, rfl, by rw [byteLen_cons, hu], ?_⟩
      rw [endTagIn_cons hstarts, heq, shiftBy_shiftBy]

/-- The byte after a text is the first byte of what follows. -/
lemma byteAt_append (p : UInt8 → Bool) (a b : List Char) :
    byteAt p (utf8 (a ++ b)) (byteLen a) = byteAt p (utf8 b) 0 := by
  rw [byteAt, byteAt, utf8_append, byteLen, getElem?_append_right le_rfl, Nat.sub_self]

/-- The loop from a cursor is the recursion over what follows the cursor. -/
lemma findEndTagFrom_eq (endTag : List Char) {fuel : ℕ} {a t : List Char}
    (hfuel : t.length ≤ fuel) :
    findEndTagFrom (a ++ t) endTag fuel (byteLen a) = shiftBy (byteLen a) (endTagIn endTag t) := by
  induction fuel using Nat.strongRecOn generalizing a t with
  | _ fuel ih =>
    rw [findEndTagFrom, byteLen_append]
    by_cases hshort : byteLen a + byteLen t < byteLen a + 2 + byteLen endTag
    · rw [if_pos hshort, endTagIn_short (by omega)]
      rfl
    · rw [if_neg hshort, splitText_append, ok_bind]
      rcases hfind : findText "</".toList t with _ | relative
      · rw [endTagIn_of_findText_none hfind]
        rfl
      · obtain ⟨u, after, rfl, rfl, heq⟩ := endTagIn_of_findText endTag hfind
        -- the text before the name, and the offsets in it
        have hsource : a ++ (u ++ '<' :: '/' :: after) = (a ++ u ++ ['<', '/']) ++ after := by simp
        have hx : byteLen (a ++ u ++ ['<', '/']) = byteLen a + byteLen u + 2 := by
          rw [byteLen_append, byteLen_append]
          rfl
        have hlen : byteLen (u ++ '<' :: '/' :: after) = byteLen u + (2 + byteLen after) := by
          rw [byteLen_append, byteLen_candidate]
        rw [heq, endTagIn_candidate]
        dsimp only
        by_cases hfit : byteLen after < byteLen endTag
        · rw [if_pos (by omega), if_pos hfit]
          rfl
        · rw [if_neg (by omega), if_neg hfit, hsource, ← hx, slice_after]
          rcases hsplit : splitText after (byteLen endTag) with h | ⟨name, rest⟩
          · rfl
          · obtain ⟨hafter, hname⟩ := splitText_eq_ok.mp hsplit
            have hbyte : byteAt endsTagName (utf8 ((a ++ u ++ ['<', '/']) ++ after))
                (byteLen (a ++ u ++ ['<', '/']) + byteLen endTag) =
                byteAt endsTagName (utf8 rest) 0 := by
              rw [hafter, ← hname, ← byteLen_append, ← append_assoc]
              exact byteAt_append _ _ _
            simp only [Except.map, ok_bind, hbyte]
            by_cases happ : isAppropriate endTag (name, rest) = true
            · rw [if_pos happ]
              rw [isAppropriate] at happ
              rw [if_pos happ]
              rfl
            · rw [if_neg happ]
              rw [isAppropriate] at happ
              rw [if_neg happ]
              simp only [length_append, length_cons] at hfuel
              match fuel, hfuel with
              | fuel + 1, hfuel =>
                dsimp only
                rw [ih fuel (Nat.lt_succ_self _) (by omega), shiftBy_shiftBy, shiftBy_shiftBy]
                congr 1

/-- **The search of the source is the recursion over the text.** -/
theorem findAppropriateEndTag_eq (source endTag : List Char) :
    findAppropriateEndTag source endTag = endTagIn endTag source := by
  have h := findEndTagFrom_eq endTag (a := []) (Nat.le_refl source.length)
  rwa [nil_append, byteLen_nil, shiftBy_zero] at h

/-- What the search finds is a candidate. -/
lemma endTagIn_eq_some (h : endTagIn endTag t = .ok (some i)) :
    ∃ a after, t = a ++ '<' :: '/' :: after ∧ byteLen a = i := by
  induction hn : t.length using Nat.strongRecOn generalizing t i with
  | _ n ih =>
    subst hn
    rcases candidate_or t with rfl | ⟨after, rfl⟩ | ⟨c, rest, rfl, hno⟩
    · cases h
    · rw [endTagIn_candidate] at h
      by_cases hfit : byteLen after < byteLen endTag
      · rw [if_pos hfit] at h
        cases h
      · rw [if_neg hfit] at h
        obtain ⟨parts, -, h⟩ := bind_eq_ok.mp h
        by_cases happ : isAppropriate endTag parts = true
        · rw [if_pos happ] at h
          cases h
          exact ⟨[], after, rfl, rfl⟩
        · rw [if_neg happ] at h
          obtain ⟨j, hj, rfl⟩ := shiftBy_eq_some.mp h
          obtain ⟨a, after', rfl, rfl⟩ := ih after.length (by simp only [length_cons]; omega) hj rfl
          exact ⟨'<' :: '/' :: a, after', rfl, byteLen_candidate a⟩
    · rw [endTagIn_cons hno] at h
      obtain ⟨j, hj, rfl⟩ := shiftBy_eq_some.mp h
      obtain ⟨a, after', rfl, rfl⟩ := ih rest.length (by simp) hj rfl
      exact ⟨c :: a, after', rfl, byteLen_cons c a⟩

/-! ### When the search panics -/

/-- The text after a `</` starts with an appropriate end tag. -/
def Appropriate (endTag after : List Char) : Prop :=
  ∃ name rest, after = name ++ rest ∧ byteLen name = byteLen endTag ∧
    isAppropriate endTag (name, rest) = true

/-- Some `</` is followed by enough bytes for the name of the end tag, but the name would end inside
a character, and there is no appropriate end tag before it. -/
def Straddles (endTag pending : List Char) : Prop :=
  ∃ a after, pending = a ++ '<' :: '/' :: after ∧ byteLen endTag ≤ byteLen after ∧
    ¬IsBoundary after (byteLen endTag) ∧
    ∀ a' after', pending = a' ++ '<' :: '/' :: after' → a'.length < a.length →
      ¬Appropriate endTag after'

/-- A character that opens no candidate does not matter. -/
lemma straddles_cons {endTag rest : List Char} (hno : ¬"</".toList.isPrefixOf (c :: rest)) :
    Straddles endTag (c :: rest) ↔ Straddles endTag rest := by
  have hne : ∀ after, c :: rest ≠ '<' :: '/' :: after := by
    intro after h
    rw [h] at hno
    exact hno rfl
  constructor
  · rintro ⟨a, after, heq, hfit, hbound, hfirst⟩
    rcases a with _ | ⟨d, a⟩
    · exact absurd heq (hne after)
    · obtain ⟨rfl, rfl⟩ := cons.inj heq
      refine ⟨a, after, rfl, hfit, hbound, ?_⟩
      intro a' after' heq' hlt
      exact hfirst (c :: a') after' (by rw [heq']; rfl) (by simpa using hlt)
  · rintro ⟨a, after, rfl, hfit, hbound, hfirst⟩
    refine ⟨c :: a, after, rfl, hfit, hbound, ?_⟩
    intro a' after' heq' hlt
    rcases a' with _ | ⟨d, a'⟩
    · exact absurd heq' (hne after')
    · obtain ⟨rfl, heq''⟩ := cons.inj heq'
      exact hfirst a' after' heq'' (by simpa using hlt)

/-- A candidate with a complete name that is not appropriate does not matter. -/
lemma straddles_candidate {endTag after : List Char} (hbound : IsBoundary after (byteLen endTag))
    (happ : ¬Appropriate endTag after) :
    Straddles endTag ('<' :: '/' :: after) ↔ Straddles endTag after := by
  have hslash : ∀ t, ¬"</".toList.isPrefixOf ('/' :: t) := by
    intro t h
    cases h
  rw [← straddles_cons (hslash after)]
  constructor
  · rintro ⟨a, after', heq, hfit, hb, hfirst⟩
    rcases a with _ | ⟨d, a⟩
    · cases heq
      exact absurd hbound hb
    · obtain ⟨rfl, heq'⟩ := cons.inj heq
      refine ⟨a, after', heq', hfit, hb, ?_⟩
      intro b after'' heq' hlt
      exact hfirst ('<' :: b) after'' (by rw [heq']; rfl) (by simpa using hlt)
  · rintro ⟨a, after', heq, hfit, hb, hfirst⟩
    refine ⟨'<' :: a, after', by rw [heq]; rfl, hfit, hb, ?_⟩
    intro b after'' heq' hlt
    rcases b with _ | ⟨d, b⟩
    · cases heq'
      exact happ
    · obtain ⟨rfl, heq''⟩ := cons.inj heq'
      exact hfirst b after'' heq'' (by simpa using hlt)

/-- **The search panics exactly if a candidate straddles a character.** -/
theorem endTagIn_eq_error {h : Halt} :
    endTagIn endTag t = .error h ↔ h = sliceError ∧ Straddles endTag t := by
  induction hn : t.length using Nat.strongRecOn generalizing t with
  | _ n ih =>
    subst hn
    rcases candidate_or t with rfl | ⟨after, rfl⟩ | ⟨c, rest, rfl, hno⟩
    · rw [endTagIn]
      simp [Straddles]
    · rw [endTagIn_candidate]
      by_cases hfit : byteLen after < byteLen endTag
      · rw [if_pos hfit]
        simp only [reduceCtorEq, false_iff, not_and]
        rintro - ⟨a, after', heq, hfit', -⟩
        -- the candidates after this one are shorter still
        have hle : byteLen after' ≤ byteLen after := by
          have := congrArg byteLen heq
          rw [byteLen_append, byteLen_candidate, byteLen_candidate] at this
          omega
        omega
      · rw [if_neg hfit]
        rcases hsplit : splitText after (byteLen endTag) with r | ⟨name, rest⟩
        · obtain ⟨hbound, rfl⟩ := splitText_eq_error.mp hsplit
          have hstraddle : Straddles endTag ('<' :: '/' :: after) :=
            ⟨[], after, rfl, by omega, hbound, by simp⟩
          rw [error_bind]
          simp only [Except.error.injEq, hstraddle, and_true]
          exact eq_comm
        · obtain ⟨hafter, hname⟩ := splitText_eq_ok.mp hsplit
          rw [ok_bind]
          by_cases happ : isAppropriate endTag (name, rest) = true
          · rw [if_pos happ]
            simp only [reduceCtorEq, false_iff, not_and]
            rintro - ⟨a, after', heq, -, hbound, hfirst⟩
            rcases a with _ | ⟨d, a⟩
            · cases heq
              exact hbound ⟨name, rest, hafter, hname⟩
            · exact hfirst [] after rfl (by simp) ⟨name, rest, hafter, hname, happ⟩
          · rw [if_neg happ, shiftBy_eq_error,
              ih after.length (by simp only [length_cons]; omega) rfl,
              straddles_candidate ⟨name, rest, hafter, hname⟩]
            rintro ⟨name', rest', hafter', hname', happ'⟩
            rw [hafter', ← hname', splitText_append] at hsplit
            cases hsplit
            exact happ happ'
    · rw [endTagIn_cons hno, shiftBy_eq_error, ih rest.length (by simp) rfl, straddles_cons hno]

/-! ### Text after what was searched -/

/-- A candidate whose name is followed by a byte is decided, whatever text is appended. -/
lemma endTagIn_candidate_append {endTag after : List Char} (h : byteLen endTag < byteLen after)
    (q : List Char) :
    endTagIn endTag ('<' :: '/' :: (after ++ q)) =
      splitText after (byteLen endTag) >>= fun parts =>
        if isAppropriate endTag parts then .ok (some 0)
        else shiftBy 2 (endTagIn endTag (after ++ q)) := by
  rw [endTagIn_candidate, byteLen_append, if_neg (by omega)]
  rcases hsplit : splitText after (byteLen endTag) with r | ⟨name, rest⟩
  · obtain ⟨hbound, rfl⟩ := splitText_eq_error.mp hsplit
    have : splitText (after ++ q) (byteLen endTag) = .error sliceError :=
      splitText_eq_error.mpr ⟨fun hb => hbound (hb.of_append (by omega)), rfl⟩
    rw [this, error_bind]
  · rw [splitText_append_right hsplit, ok_bind, ok_bind]
    obtain ⟨hafter, hname⟩ := splitText_eq_ok.mp hsplit
    -- the byte after the name is there already
    obtain ⟨d, rest', rfl⟩ : ∃ d rest', rest = d :: rest' := by
      refine exists_cons_of_ne_nil ?_
      rintro rfl
      simp only [append_nil] at hafter
      rw [hafter, hname] at h
      omega
    have hsame : isAppropriate endTag (name, d :: rest' ++ q) =
        isAppropriate endTag (name, d :: rest') := by
      have hpos : 0 < (utf8 (d :: rest')).length := by
        have := d.utf8Size_pos
        have hlen : (utf8 (d :: rest')).length = _ := byteLen_cons d rest'
        omega
      simp only [isAppropriate, byteAt, utf8_append]
      rw [getElem?_append_left hpos]
    rw [hsame]

/-- A character that opens no candidate before another character still opens none. -/
lemma not_candidate_append {rest : List Char} (hrest : rest ≠ [])
    (hno : ¬"</".toList.isPrefixOf (c :: rest)) (q : List Char) :
    ¬"</".toList.isPrefixOf (c :: (rest ++ q)) := by
  obtain ⟨d, rest, rfl⟩ := exists_cons_of_ne_nil hrest
  intro h
  obtain ⟨t, ht⟩ := isPrefixOf_iff_prefix.mp h
  cases ht
  exact hno rfl

/-- **What the search found, or where it panicked, stays when text is appended.** -/
theorem endTagIn_append (h : endTagIn endTag t ≠ .ok none)
    (q : List Char) : endTagIn endTag (t ++ q) = endTagIn endTag t := by
  induction hn : t.length using Nat.strongRecOn generalizing t with
  | _ n ih =>
    subst hn
    rcases candidate_or t with rfl | ⟨after, rfl⟩ | ⟨c, rest, rfl, hno⟩
    · exact absurd rfl h
    · have hcand := endTagIn_candidate endTag after
      have hfit : ¬byteLen after < byteLen endTag := by
        intro hlt
        rw [if_pos hlt] at hcand
        exact h hcand
      rw [if_neg hfit] at hcand
      have hstrict : byteLen endTag < byteLen after := by
        refine Nat.lt_of_le_of_ne (Nat.le_of_not_lt hfit) ?_
        intro heq
        -- a name at the very end is not yet appropriate, and nothing follows it
        have hsplit : splitText after (byteLen endTag) = .ok (after, []) := by
          have := splitText_append after []
          rwa [append_nil, ← heq] at this
        have happ : ¬isAppropriate endTag (after, []) = true := by
          rw [isAppropriate, Bool.and_eq_true]
          rintro ⟨-, hbyte⟩
          cases hbyte
        have hnone : endTagIn endTag after = .ok none := endTagIn_short (by omega)
        rw [hsplit, ok_bind, if_neg happ, hnone] at hcand
        exact h hcand
      rw [cons_append, cons_append, endTagIn_candidate_append hstrict, hcand]
      rcases hsplit : splitText after (byteLen endTag) with r | parts
      · rfl
      · rw [hsplit, ok_bind] at hcand
        rw [ok_bind, ok_bind]
        by_cases happ : isAppropriate endTag parts = true
        · rw [if_pos happ, if_pos happ]
        · rw [if_neg happ] at hcand
          rw [if_neg happ, if_neg happ, ih after.length (by simp only [length_cons]; omega) ?_ rfl]
          intro hnone
          rw [hnone] at hcand
          exact h hcand
    · rw [endTagIn_cons hno] at h
      have hrest : endTagIn endTag rest ≠ .ok none := fun hnone => h (shiftBy_eq_none.mpr hnone)
      have hne : rest ≠ [] := by
        rintro rfl
        exact hrest rfl
      rw [cons_append, endTagIn_cons (not_candidate_append hne hno q), endTagIn_cons hno,
        ih rest.length (by simp) hrest rfl]

/-- **Text retained for an end tag is enough**: if the text before a cut is followed by more bytes
than an end tag needs to be decided and nothing was found, the search goes on after the cut. -/
theorem endTagIn_append_cut {endTag a r : List Char} (hr : byteLen endTag + 3 ≤ byteLen r)
    (h : endTagIn endTag (a ++ r) = .ok none) (q : List Char) :
    endTagIn endTag (a ++ (r ++ q)) = shiftBy (byteLen a) (endTagIn endTag (r ++ q)) := by
  have hrne : r ≠ [] := by
    rintro rfl
    rw [byteLen_nil] at hr
    omega
  induction hn : a.length using Nat.strongRecOn generalizing a with
  | _ n ih =>
    subst hn
    rcases a with _ | ⟨c, a⟩
    · rw [nil_append, byteLen_nil, shiftBy_zero]
    · rw [cons_append] at h ⊢
      rcases candidate_or (c :: (a ++ r)) with hnil | ⟨after, hafter⟩ | ⟨c', rest, heq, hno⟩
      · cases hnil
      · -- a candidate that starts before the cut is decided before the end of the retained text
        obtain ⟨rfl, htail⟩ := cons.inj hafter
        have hlen : byteLen r ≤ 1 + byteLen after := by
          have hslash : '/'.utf8Size = 1 := rfl
          have := congrArg byteLen htail
          rw [byteLen_append, byteLen_cons] at this
          omega
        have hstrict : byteLen endTag < byteLen after := by omega
        rw [hafter, ← append_nil after, endTagIn_candidate_append hstrict] at h
        obtain ⟨parts, hsplit, h⟩ := bind_eq_ok.mp h
        have happ : ¬isAppropriate endTag parts = true := by
          intro happ
          rw [if_pos happ] at h
          cases h
        rw [if_neg happ, append_nil] at h
        have hwhole : '<' :: (a ++ (r ++ q)) = '<' :: '/' :: (after ++ q) := by
          rw [← append_assoc, htail]
          rfl
        rw [hwhole, endTagIn_candidate_append hstrict, hsplit, ok_bind, if_neg happ]
        rcases a with _ | ⟨d, a⟩
        · -- the cut parts `<` from its `/`
          rw [nil_append] at htail
          have hslash : ¬"</".toList.isPrefixOf ('/' :: (after ++ q)) := by
            intro h
            cases h
          rw [htail, cons_append, endTagIn_cons hslash, shiftBy_shiftBy]
          rfl
        · rw [cons_append] at htail
          obtain ⟨rfl, rfl⟩ := cons.inj htail
          rw [append_assoc, ih a.length (by simp only [length_cons]; omega)
            (shiftBy_eq_none.mp h) rfl, shiftBy_shiftBy, byteLen_candidate]
      · cases heq
        rw [endTagIn_cons hno] at h
        have hno' := not_candidate_append (by simp [hrne]) hno q
        rw [append_assoc] at hno'
        rw [endTagIn_cons hno', ih a.length (by simp) (shiftBy_eq_none.mp h) rfl,
          shiftBy_shiftBy, byteLen_cons]

/-! ## Cuts of streamed text -/

/-- The text ends in what may be a character reference that is not complete. -/
def OpenReference (a : List Char) : Prop :=
  ∃ b u, a = b ++ '&' :: u ∧ (utf8 u).all isReferenceByte = true

/-- The character may go on with a character reference. -/
def continuesReference (c : Char) : Bool := isReferenceByte (leadByte c) || c = ';'

/-- A cut at which text can be emitted in two pieces: it parts no CR from its LF and, in text with
references, no reference. -/
structure CleanCut (decodeEntities : Bool) (a y : List Char) : Prop where
  newline : SafeCut a y
  reference : decodeEntities = true → OpenReference a →
    ∀ c, y.head? = some c → continuesReference c = false

namespace CleanCut

variable {decodeEntities : Bool} {a y : List Char}

/-- A CR or a `&` after the cut makes it clean. -/
lemma of_head {c : Char} (hc : continuesReference c = false) (hn : c ≠ '\n') (y : List Char) :
    CleanCut decodeEntities a (c :: y) where
  newline := by
    intro _ h
    exact hn (Option.some.inj h)
  reference := by
    intro _ _ d hd
    cases hd
    exact hc

/-- A cut after text that ends neither in a CR nor in a reference. -/
lemma of_closed (hcr : a.getLast? ≠ some '\r')
    (href : decodeEntities = true → ¬OpenReference a) (y : List Char) :
    CleanCut decodeEntities a y where
  newline h := absurd h hcr
  reference hd ho := absurd ho (href hd)

/-- Only the first character after a cut matters. -/
lemma of_append (h : CleanCut decodeEntities a y) {x z : List Char} (hy : y = x ++ z) :
    CleanCut decodeEntities a x := by
  subst hy
  rcases x with _ | ⟨c, x⟩
  · exact ⟨.nil_right a, fun _ _ c hc => by cases hc⟩
  · exact ⟨h.newline, h.reference⟩

end CleanCut

lemma byteLen_concat_cr (a : List Char) : byteLen (a ++ ['\r']) - 1 = byteLen a := by
  have hcr : '\r'.utf8Size = 1 := rfl
  rw [byteLen_append, byteLen_cons, byteLen_nil]
  omega

/-- A text without its last CR, if it has one. -/
lemma exists_dropCr (s : List Char) :
    (s.getLast? = some '\r' ∧ ∃ a, s = a ++ ['\r']) ∨ s.getLast? ≠ some '\r' := by
  by_cases h : s.getLast? = some '\r'
  · exact .inl ⟨h, getLast?_eq_some_iff.mp h⟩
  · exact .inr h

/-- The last `&` of a text. -/
lemma openReference_of_last {b u : List Char} (hu : '&' ∉ u)
    (h : OpenReference (b ++ '&' :: u)) : (utf8 u).all isReferenceByte = true := by
  obtain ⟨b', u', heq, hall⟩ := h
  have hu' : '&' ∉ u' := by
    intro hmem
    obtain ⟨x, y, rfl⟩ := append_of_mem hmem
    rw [all_eq_true] at hall
    have hbyte : (38 : UInt8) ∈ utf8 (x ++ '&' :: y) := by
      rw [utf8_append, utf8_cons]
      exact mem_append_right _ (mem_append_left _ (by decide))
    exact absurd (hall 38 hbyte) (by decide)
  -- both are what follows the last `&`
  rcases append_eq_append_iff.mp heq with ⟨m, hb, hm⟩ | ⟨m, hb, hm⟩
  · rcases m with _ | ⟨c, m⟩
    · cases hm
      exact hall
    · cases hm
      exact absurd (by simp) hu
  · rcases m with _ | ⟨c, m⟩
    · cases hm
      exact hall
    · cases hm
      exact absurd (by simp) hu'

/-- **What `safe_stream_text_prefix` lets through ends at a clean cut**, whatever text follows. -/
theorem safeStreamTextPrefix_spec (source : List Char) (entities : Bool) :
    ∃ a r, source = a ++ r ∧ safeStreamTextPrefix source entities true = .ok (byteLen a) ∧
      ∀ q, CleanCut entities a (r ++ q) := by
  unfold safeStreamTextPrefix
  -- first without the CR
  obtain ⟨s, r, rfl, hlen, hr⟩ : ∃ s r, source = s ++ r ∧
      (if true && decide (source.getLast? = some '\r') then byteLen source - 1
        else byteLen source) = byteLen s ∧
      (r = [] ∧ s.getLast? ≠ some '\r' ∨ r = ['\r']) := by
    rcases exists_dropCr source with ⟨hlast, s, rfl⟩ | hlast
    · refine ⟨s, ['\r'], rfl, ?_, .inr rfl⟩
      simp only [hlast, decide_true, Bool.and_true, if_true]
      exact byteLen_concat_cr s
    · refine ⟨source, [], by simp, ?_, .inl ⟨rfl, hlast⟩⟩
      simp only [hlast, decide_false, Bool.and_false, Bool.false_eq_true, if_false]
  simp only [hlen]
  have hclosed : (entities = true → ¬OpenReference s) → ∀ q, CleanCut entities s (r ++ q) := by
    intro href q
    rcases hr with ⟨rfl, hlast⟩ | rfl
    · exact .of_closed hlast href q
    · exact .of_head (by decide) (by decide) q
  cases entities with
  | false => exact ⟨s, r, rfl, rfl, hclosed (by simp)⟩
  | true =>
    rw [if_pos rfl, splitText_append, ok_bind]
    rcases hamp : rfindChar '&' s with _ | ampersand
    · refine ⟨s, r, rfl, rfl, hclosed ?_⟩
      rintro - ⟨b, u, rfl, -⟩
      exact rfindChar_eq_none hamp (by simp)
    · obtain ⟨b, u, rfl, hu, rfl⟩ := rfindChar_eq_some hamp
      have htail : slice (b ++ '&' :: u ++ r) (byteLen b + 1) (byteLen (b ++ '&' :: u)) = .ok u := by
        have := slice_append (b ++ ['&']) u r
        have hamp' : '&'.utf8Size = 1 := rfl
        rw [byteLen_append, byteLen_cons, byteLen_nil, hamp'] at this
        simpa using this
      simp only [htail, ok_bind]
      by_cases hall : (utf8 u).all isReferenceByte = true
      · refine ⟨b, '&' :: u ++ r, by simp, by rw [if_pos hall], ?_⟩
        intro q
        exact .of_head (by decide) (by decide) _
      · refine ⟨b ++ '&' :: u, r, rfl, by rw [if_neg hall], hclosed ?_⟩
        intro _ hopen
        exact hall (openReference_of_last hu hopen)

lemma floorCharBoundary_spec (source : List Char) (index : ℕ) :
    ∃ a r, source = a ++ r ∧ floorCharBoundary source index = byteLen a ∧ byteLen a ≤ index := by
  induction index with
  | zero => exact ⟨[], source, rfl, rfl, le_rfl⟩
  | succ index ih =>
    rw [floorCharBoundary]
    rcases hsplit : splitAtByte source (index + 1) with _ | ⟨a, r⟩
    · obtain ⟨a, r, hs, hfloor, hle⟩ := ih
      exact ⟨a, r, hs, by simpa using hfloor, by omega⟩
    · obtain ⟨hs, hlen⟩ := splitAtByte_eq_some.mp hsplit
      exact ⟨a, r, hs, by simpa using hlen.symm, Nat.le_of_eq hlen⟩

/-- **What is emitted in a text mode ends at a clean cut** that leaves the retained bytes. -/
theorem streamedTextLength_spec {pending : List Char} {retain : ℕ} (hretain : retain ≤ byteLen pending)
    (decodeEntities : Bool) :
    ∃ a r, pending = a ++ r ∧ streamedTextLength pending retain decodeEntities = .ok (byteLen a) ∧
      retain ≤ byteLen r ∧ ∀ q, CleanCut decodeEntities a (r ++ q) := by
  unfold streamedTextLength
  obtain ⟨p, p', rfl, hfloor, hle⟩ := floorCharBoundary_spec pending (byteLen pending - retain)
  simp only [hfloor]
  have hp' : retain ≤ byteLen p' := by
    rw [byteLen_append] at hle hretain
    omega
  -- the length before the last CR is dropped
  obtain ⟨s, r, hs, hlen, hr, hclean⟩ : ∃ s r, p ++ p' = s ++ r ∧
      (if decodeEntities then do
          let parts ← splitText (p ++ p') (byteLen p)
          let safe ← safeStreamTextPrefix parts.1 true true
          .ok (min (byteLen p) safe)
        else .ok (byteLen p) : Except Halt ℕ) = .ok (byteLen s) ∧ retain ≤ byteLen r ∧
      (s.getLast? ≠ some '\r' → ∀ q, CleanCut decodeEntities s (r ++ q)) := by
    cases decodeEntities with
    | false => exact ⟨p, p', rfl, rfl, hp', fun hlast q => .of_closed hlast (by simp) _⟩
    | true =>
      obtain ⟨a, r, rfl, hsafe, hclean⟩ := safeStreamTextPrefix_spec p true
      refine ⟨a, r ++ p', by simp, ?_, ?_, ?_⟩
      · rw [if_pos rfl, splitText_append, ok_bind, hsafe, ok_bind, byteLen_append,
          Nat.min_eq_right (Nat.le_add_right _ _)]
      · rw [byteLen_append]
        omega
      · intro _ q
        rw [append_assoc]
        exact hclean (p' ++ q)
  rw [hlen, ok_bind, hs, splitText_append, ok_bind]
  rcases exists_dropCr s with ⟨hlast, s, rfl⟩ | hlast
  · refine ⟨s, '\r' :: r, by simp, ?_, ?_, ?_⟩
    · rw [if_pos hlast, byteLen_concat_cr]
    · rw [byteLen_cons]
      omega
    · intro q
      exact .of_head (by decide) (by decide) _
  · exact ⟨s, r, rfl, by rw [if_neg hlast], hr, hclean hlast⟩

/-! ## The end of a tag -/

section

variable {quote : Option UInt8} {k i : ℕ} {bytes : List UInt8}
variable (h : findTagEndFrom quote k bytes = some i)
include h

lemma findTagEndFrom_spec : k ≤ i ∧ bytes[i - k]? = some 62 := by
  induction bytes generalizing quote k with
  | nil => cases quote <;> cases h
  | cons b rest ih =>
    -- every byte but the end itself leaves the rest of the scan
    have hrest : ∀ {quote'}, findTagEndFrom quote' (k + 1) rest = some i →
        k ≤ i ∧ (b :: rest)[i - k]? = some 62 := by
      intro quote' hscan
      obtain ⟨hle, hget⟩ := ih hscan
      refine ⟨by omega, ?_⟩
      have : i - k = i - (k + 1) + 1 := by omega
      rw [this, getElem?_cons_succ]
      exact hget
    cases quote with
    | some expected => exact hrest h
    | none =>
      rw [findTagEndFrom] at h
      split_ifs at h with hquote hend
      · exact hrest h
      · cases h
        have : b = 62 := UInt8.toNat_inj.mp (of_decide_eq_true hend)
        simp [this]
      · exact hrest h

lemma findTagEndFrom_append (more : List UInt8) :
    findTagEndFrom quote k (bytes ++ more) = some i := by
  induction bytes generalizing quote k with
  | nil => cases quote <;> cases h
  | cons b rest ih =>
    cases quote with
    | some expected => exact ih h
    | none =>
      rw [findTagEndFrom] at h
      rw [cons_append, findTagEndFrom]
      split_ifs at h ⊢ with hquote hend
      · exact ih h
      · exact h
      · exact ih h

end

/-- **The end of a tag is a `>` of the text.** -/
theorem findTagEnd_spec {source : List Char} (h : findTagEnd source = some i) :
    ∃ a b, source = a ++ '>' :: b ∧ byteLen a = i := by
  obtain ⟨hle, hget⟩ := findTagEndFrom_spec h
  rw [getElem?_drop, Nat.add_sub_cancel' hle] at hget
  obtain ⟨a, c, b, rfl, ha, hc⟩ := exists_of_utf8_getElem? hget (by decide)
  have hchar : c = '>' := by
    rcases utf8EncodeChar_cases c with ⟨x, hx, -, hval, -⟩ | ⟨hbytes, -⟩
    · rw [hc] at hx
      cases hx
      exact Char.ext (UInt32.toNat_inj.mp hval.symm)
    · exact absurd (hbytes 62 (by rw [hc]; simp)) (by decide)
  exact ⟨a, b, by rw [hchar], ha⟩

lemma findTagEnd_append {source : List Char} (h : findTagEnd source = some i) (q : List Char) :
    findTagEnd (source ++ q) = some i := by
  obtain ⟨a, b, hs, -⟩ := findTagEnd_spec h
  have hne : 1 ≤ (utf8 source).length := by
    rcases source with _ | ⟨c, source⟩
    · simp at hs
    · have := c.utf8Size_pos
      have hlen : (utf8 (c :: source)).length = _ := byteLen_cons c source
      omega
  rw [findTagEnd, utf8_append, drop_append_of_le_length hne]
  exact findTagEndFrom_append h _

end WildBuzzard.Parser
