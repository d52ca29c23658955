import WildBuzzard.Parser.Boundaries

/-!
# Text in pieces

`text_append`: **the text loop over two pieces of a text gives what it gives over the whole**, if the
cut parts no CR from its LF and no character reference. The errors are the same, at the same
positions. For decoded text this rests on `consumeReference_append`: **a reference that has ended
before the cut, or is not continued after it, does not see the text after the cut**.

`emitText_append` puts this together for the tokens that `emit_characters` pushes: after merging
adjacent character tokens (`coalesce`) the pieces give what the whole gives.
-/

namespace WildBuzzard.Parser

open Lib List Report

/-! ## The text loop without fuel -/

section

variable {reference : List Char → SourcePosition → Report ParseError (Option (List Char × ℕ))}

variable (start : SourcePosition) (done : List Char)

/-- A handler of references that does not halt and takes a nonempty prefix of the text. -/
def ReferencesSafe
    (reference : List Char → SourcePosition → Report ParseError (Option (List Char × ℕ))) : Prop :=
  ∀ rest position, (reference ('&' :: rest) position).Safe (IsReference ('&' :: rest))

/-- What is left after a reference is shorter. -/
lemma length_of_reference {source : List Char} {r : Option (List Char × ℕ)}
    (hr : IsReference source r) {replacement : List Char} {consumed : ℕ}
    (heq : r = some (replacement, consumed)) {parts : List Char × List Char}
    (hsplit : splitText source consumed = .ok parts) : parts.2.length < source.length := by
  obtain ⟨-, hpos, -⟩ := hr replacement consumed heq
  obtain ⟨happ, hlen⟩ := splitText_eq_ok.mp hsplit
  have hne : parts.1 ≠ [] := by
    intro hnil
    rw [hnil, byteLen_nil] at hlen
    omega
  have := length_pos_iff.mpr hne
  rw [happ, length_append]
  omega

/-- More fuel than characters makes no difference. -/
lemma textFrom_fuel (href : ReferencesSafe reference) (start : SourcePosition) {n k : ℕ}
    {done rest : List Char} (hn : rest.length ≤ n) (hk : rest.length ≤ k) :
    textFrom reference start n done rest = textFrom reference start k done rest := by
  induction n generalizing k done rest with
  | zero =>
    rw [eq_nil_of_length_eq_zero (Nat.le_zero.mp hn)]
    simp only [textFrom]
  | succ n ih =>
    rcases rest with _ | ⟨c, rest⟩
    · simp only [textFrom]
    · obtain ⟨k, rfl⟩ := Nat.exists_eq_add_one.mpr ((Nat.succ_pos _).trans_le hk)
      have hn' : rest.length ≤ n := by simpa using hn
      have hk' : rest.length ≤ k := by simpa using hk
      rw [textFrom.eq_def reference start (n + 1), textFrom.eq_def reference start (k + 1)]
      dsimp only
      split_ifs with hamp hnull hcr
      · subst hamp
        obtain ⟨r, m, hr, hprop⟩ := href rest (start.advancedBy done)
        rw [hr, done_bind, done_bind]
        rcases r with _ | ⟨replacement, consumed⟩
        · dsimp only
          rw [ih hn' hk']
        · dsimp only
          rcases hsplit : splitText ('&' :: rest) consumed with h | parts
          · rfl
          · have hlt := length_of_reference hprop rfl hsplit
            rw [silent_ok, pure_bind, pure_bind, ih (k := k) (by omega) (by omega)]
      · rw [ih hn' hk']
      · split
        · simp only [length_cons] at hn' hk'
          rw [ih (k := k) (by omega) (by omega)]
        · rw [ih hn' hk']
      · rw [ih hn' hk']

/-- The text loop with fuel for the whole text. -/
def text (reference : List Char → SourcePosition → Report ParseError (Option (List Char × ℕ)))
    (start : SourcePosition) (done rest : List Char) : Report ParseError (List Char) :=
  textFrom reference start rest.length done rest

@[simp] lemma text_nil : text reference start done [] = pure [] := by
  rw [text, textFrom]

lemma text_amp (href : ReferencesSafe reference) (start : SourcePosition) (done rest : List Char) :
    text reference start done ('&' :: rest) =
      reference ('&' :: rest) (start.advancedBy done) >>= fun
        | none => (text reference start (done ++ ['&']) rest).mapValue ('&' :: ·)
        | some (replacement, consumed) =>
          .silent (splitText ('&' :: rest) consumed) >>= fun parts =>
            (text reference start (done ++ parts.1) parts.2).mapValue (replacement ++ ·) := by
  rw [text, length_cons, textFrom.eq_def]
  simp only [if_true]
  obtain ⟨r, m, hr, hprop⟩ := href rest (start.advancedBy done)
  rw [hr, done_bind, done_bind]
  rcases r with _ | ⟨replacement, consumed⟩
  · simp only [bind_pure_eq_mapValue, text]
  · dsimp only
    rcases hsplit : splitText ('&' :: rest) consumed with h | parts
    · rfl
    · have hlt := length_of_reference hprop rfl hsplit
      rw [length_cons] at hlt
      simp only [silent_ok, pure_bind, bind_pure_eq_mapValue, text]
      rw [textFrom_fuel href start (n := rest.length) (by omega) le_rfl]

lemma text_null (done rest : List Char) :
    text reference start done ('\x00' :: rest) =
      ((text reference start (done ++ ['\x00']) rest).mapValue ('\ufffd' :: ·)).after
        [tokenizerError .unexpectedNullCharacter (start.advancedBy done)] := by
  rw [text, length_cons, textFrom.eq_def]
  simp only [Char.reduceEq, if_false, if_true, log, done_bind, bind_pure_eq_mapValue, text]

lemma text_crlf (href : ReferencesSafe reference) (start : SourcePosition) (done rest : List Char) :
    text reference start done ('\r' :: '\n' :: rest) =
      (text reference start (done ++ ['\r', '\n']) rest).mapValue ('\n' :: ·) := by
  rw [text, length_cons, textFrom.eq_def]
  simp only [Char.reduceEq, if_false, if_true, bind_pure_eq_mapValue, text]
  rw [textFrom_fuel href start (by simp) le_rfl]

lemma text_cr {rest : List Char} (h : rest.head? ≠ some '\n') :
    text reference start done ('\r' :: rest) =
      (text reference start (done ++ ['\r']) rest).mapValue ('\n' :: ·) := by
  rw [text, length_cons, textFrom.eq_def]
  simp only [Char.reduceEq, if_false, if_true]
  split
  · exact absurd rfl h
  · simp only [bind_pure_eq_mapValue, text]

lemma text_other {c : Char} (rest : List Char)
    (hamp : c ≠ '&') (hnull : c ≠ '\x00') (hcr : c ≠ '\r') :
    text reference start done (c :: rest) =
      (text reference start (done ++ [c]) rest).mapValue (c :: ·) := by
  rw [text, length_cons, textFrom.eq_def]
  simp only [hamp, hnull, hcr, if_false, bind_pure_eq_mapValue, text]

/-! ## Cutting the text loop -/

variable (href : ReferencesSafe reference) (start : SourcePosition)
include href

/-- **The loop over two pieces gives what it gives over the whole**, if no reference sees past the
cut. -/
theorem text_append (done : List Char) {a y : List Char} (hcut : SafeCut a y)
    (hsee : ∀ b u, a = b ++ '&' :: u → ∀ position,
      reference ('&' :: (u ++ y)) position = reference ('&' :: u) position) :
    text reference start done (a ++ y) =
      text reference start done a >>= fun x =>
        (text reference start (done ++ a) y).mapValue (x ++ ·) := by
  induction hn : a.length using Nat.strongRecOn generalizing a done with
  | _ n ih =>
    subst hn
    -- the rest of the first piece after a nonempty prefix `p` of it, behind what `p` gives
    have hrest : ∀ {p b : List Char} (f : List Char → List Char), (∀ x z, f (x ++ z) = f x ++ z) →
        a = p ++ b → p ≠ [] → (text reference start (done ++ p) (b ++ y)).mapValue f =
          (text reference start (done ++ p) b).mapValue f >>= fun x =>
            (text reference start (done ++ a) y).mapValue (x ++ ·) := by
      intro p b f hf hab hp
      subst hab
      have hlen := length_pos_iff.mpr hp
      rw [ih b.length (by simp; omega) (done ++ p) hcut.of_append_left ?_ rfl, mapValue_bind,
        bind_mapValue]
      · simp only [mapValue_mapValue, append_assoc, hf]
      · intro b' u hb
        exact hsee (p ++ b') u (by rw [hb]; simp)
    rcases a with _ | ⟨c, a⟩
    · simp only [nil_append, text_nil, pure_bind, append_nil]
      cases text reference start done y <;> rfl
    · rw [cons_append]
      by_cases hamp : c = '&'
      · subst hamp
        rw [text_amp href, text_amp href, hsee [] a rfl]
        obtain ⟨r, m, hr, hprop⟩ := href a (start.advancedBy done)
        rw [hr, done_bind, done_bind, after_bind]
        rcases r with _ | ⟨replacement, consumed⟩
        · dsimp only
          rw [hrest (p := ['&']) _ (fun _ _ => rfl) rfl (by simp)]
        · dsimp only
          obtain ⟨-, hpos, hbound⟩ := hprop _ _ rfl
          obtain ⟨p, b, hsplit, hab, hlen⟩ := exists_splitText hbound
          have hp : p ≠ [] := by
            rintro rfl
            rw [byteLen_nil] at hlen
            omega
          have hsplit' := splitText_append_right hsplit y
          rw [cons_append] at hsplit'
          rw [hsplit, hsplit']
          simp only [silent_ok, pure_bind]
          rw [hrest _ (fun _ _ => (append_assoc ..).symm) hab hp]
      · by_cases hnull : c = '\x00'
        · subst hnull
          rw [text_null, text_null, after_bind,
            hrest (p := ['\x00']) _ (fun _ _ => rfl) rfl (by simp)]
        · by_cases hcr : c = '\r'
          · subst hcr
            by_cases hlf : a.head? = some '\n'
            · obtain ⟨b, rfl⟩ : ∃ b, a = '\n' :: b := by
                rcases a with _ | ⟨d, b⟩
                · cases hlf
                · cases hlf
                  exact ⟨b, rfl⟩
              rw [cons_append, text_crlf href, text_crlf href,
                hrest (p := ['\r', '\n']) _ (fun _ _ => rfl) rfl (by simp)]
            · have hlf' : (a ++ y).head? ≠ some '\n' := by
                rcases a with _ | ⟨d, b⟩
                · exact hcut rfl
                · exact hlf
              rw [text_cr start done hlf', text_cr start done hlf,
                hrest (p := ['\r']) _ (fun _ _ => rfl) rfl (by simp)]
          · rw [text_other start done _ hamp hnull hcr, text_other start done _ hamp hnull hcr,
              hrest (p := [c]) _ (fun _ _ => rfl) rfl (by simp)]

/-- The loop only uses the text before its cursor for positions. -/
lemma text_advance (p done : List Char) {rest : List Char} (hcut : SafeCut p (done ++ rest)) :
    text reference start (p ++ done) rest = text reference (start.advancedBy p) done rest := by
  have hpos : start.advancedBy (p ++ done) = (start.advancedBy p).advancedBy done :=
    start.advancedBy_append hcut.of_append_right
  induction hn : rest.length using Nat.strongRecOn generalizing done rest with
  | _ n ih =>
    subst hn
    -- a nonempty prefix `b` of the rest moves the cursor
    have hnext : ∀ {b t : List Char}, rest = b ++ t → b ≠ [] →
        text reference start (p ++ done ++ b) t =
          text reference (start.advancedBy p) (done ++ b) t := by
      intro b t heq hb
      subst heq
      have hcut' : SafeCut p (done ++ b ++ t) := by rwa [append_assoc]
      rw [append_assoc]
      refine ih t.length ?_ _ hcut' (start.advancedBy_append hcut'.of_append_right) rfl
      have := length_pos_iff.mpr hb
      simp
      omega
    rcases rest with _ | ⟨c, rest⟩
    · simp only [text_nil]
    · by_cases hamp : c = '&'
      · subst hamp
        rw [text_amp href, text_amp href, hpos]
        obtain ⟨r, m, hr, hprop⟩ := href rest ((start.advancedBy p).advancedBy done)
        rw [hr, done_bind, done_bind]
        rcases r with _ | ⟨replacement, consumed⟩
        · dsimp only
          rw [hnext (b := ['&']) rfl (by simp)]
        · dsimp only
          obtain ⟨-, hpos', hbound⟩ := hprop _ _ rfl
          obtain ⟨b, t, hsplit, hbt, hlen⟩ := exists_splitText hbound
          have hb : b ≠ [] := by
            rintro rfl
            rw [byteLen_nil] at hlen
            omega
          rw [hsplit]
          simp only [silent_ok, pure_bind]
          rw [hnext hbt hb]
      · by_cases hnull : c = '\x00'
        · subst hnull
          rw [text_null, text_null, hpos, hnext (b := ['\x00']) rfl (by simp)]
        · by_cases hcr : c = '\r'
          · subst hcr
            by_cases hlf : rest.head? = some '\n'
            · obtain ⟨t, rfl⟩ : ∃ t, rest = '\n' :: t := by
                rcases rest with _ | ⟨d, t⟩
                · cases hlf
                · cases hlf
                  exact ⟨t, rfl⟩
              rw [text_crlf href, text_crlf href, hnext (b := ['\r', '\n']) rfl (by simp)]
            · rw [text_cr start _ hlf, text_cr _ _ hlf, hnext (b := ['\r']) rfl (by simp)]
          · rw [text_other start _ _ hamp hnull hcr, text_other _ _ _ hamp hnull hcr,
              hnext (b := [c]) rfl (by simp)]

end

/-! ## References before a cut -/

/-- What follows `k` in the bytes before a cut decides a reference, whatever bytes follow the cut:
the reference ends before the cut, or it is not continued after it. -/
def Decided (bytes more : List UInt8) (k : ℕ) : Prop :=
  (∃ b ∈ bytes.drop k, isReferenceByte b = false) ∨
    ∀ b, more[0]? = some b → (isReferenceByte b || byteIs ';' b) = false

namespace Decided

variable {bytes more : List UInt8} {k : ℕ}

variable (h : Decided bytes more k)
include h

/-- Looking for a byte of a reference at an offset. -/
lemma any_eq (hk : k ≤ bytes.length) {q : UInt8 → Bool}
    (hq : ∀ b, q b = true → (isReferenceByte b || byteIs ';' b) = true) :
    ((bytes ++ more)[k]?).any q = (bytes[k]?).any q := by
  rcases Nat.lt_or_eq_of_le hk with hlt | rfl
  · rw [getElem?_append_left hlt]
  · rw [getElem?_append_right le_rfl, Nat.sub_self, getElem?_eq_none le_rfl]
    rcases h with ⟨b, hb, -⟩ | h
    · simp at hb
    · rcases hm : more[0]? with _ | b
      · rfl
      · have hfail := h b hm
        by_contra hne
        rw [hq b (by simpa using hne)] at hfail
        cases hfail

/-- One byte of the reference further. -/
lemma succ {b : UInt8} (hb : bytes[k]? = some b) (href : isReferenceByte b = true) :
    Decided bytes more (k + 1) := by
  rcases h with ⟨x, hx, hfail⟩ | h
  · left
    refine ⟨x, ?_, hfail⟩
    obtain ⟨hlt, rfl⟩ := List.getElem?_eq_some_iff.mp hb
    rw [drop_eq_getElem_cons hlt] at hx
    rcases mem_cons.mp hx with rfl | hx
    · rw [href] at hfail
      cases hfail
    · exact hx
  · exact .inr h

/-- A scan over bytes of a reference. -/
lemma skip (hk : k ≤ bytes.length) {p : UInt8 → Bool}
    (hp : ∀ b, p b = true → isReferenceByte b = true) :
    skipWhile p (bytes ++ more) k (bytes ++ more).length = skipWhile p bytes k bytes.length ∧
      Decided bytes more (skipWhile p bytes k bytes.length) ∧
      skipWhile p bytes k bytes.length ≤ bytes.length := by
  unfold skipWhile
  rw [take_length, take_length, drop_append_of_le_length hk]
  obtain ⟨d, hd⟩ : ∃ d, bytes.drop k = d := ⟨_, rfl⟩
  have hsplit := takeWhile_append_dropWhile (p := p) (l := d)
  have hlen : k + d.length = bytes.length := by
    rw [← hd, length_drop]
    omega
  have hstart : d.takeWhile p <+: d := takeWhile_prefix p
  have hle : (d.takeWhile p).length ≤ d.length := hstart.length_le
  rw [Decided, ← drop_drop, hd]
  have hdrop : d.drop (d.takeWhile p).length = d.dropWhile p := by
    have := congrArg (drop (d.takeWhile p).length) hsplit
    rw [drop_left] at this
    exact this.symm
  rw [hdrop]
  refine ⟨?_, ?_, by omega⟩
  · congr 2
    rw [takeWhile_append]
    split_ifs with hall
    · -- all bytes before the cut belong to the reference: it is not continued after the cut
      have heq : d.takeWhile p = d := hstart.eq_of_length hall
      have hstop : more.takeWhile p = [] := by
        rcases h with ⟨b, hb, hfail⟩ | h
        · rw [hd, ← heq] at hb
          rw [hp b (mem_takeWhile_imp hb)] at hfail
          cases hfail
        · rcases more with _ | ⟨b, more⟩
          · rfl
          · have hfail := h b rfl
            rw [takeWhile_cons]
            split_ifs with hpb
            · rw [hp b hpb] at hfail
              cases hfail
            · rfl
      rw [hstop, append_nil, heq]
    · rfl
  · rcases h with ⟨b, hb, hfail⟩ | h
    · left
      refine ⟨b, ?_, hfail⟩
      rw [hd, ← hsplit] at hb
      rcases mem_append.mp hb with hb | hb
      · rw [hp b (mem_takeWhile_imp hb)] at hfail
        cases hfail
      · exact hb
    · exact .inr h

end Decided

variable {b : UInt8} (position : SourcePosition)

lemma isReferenceByte_of_alphanumeric (h : isAsciiAlphanumeric b = true) :
    isReferenceByte b = true := by
  simp [isReferenceByte, h]

lemma isAsciiAlphanumeric_of_hexdigit (h : isAsciiHexdigit b = true) :
    isAsciiAlphanumeric b = true := by
  have := of_decide_eq_true h
  exact decide_eq_true (by omega)

lemma isAsciiAlphanumeric_of_digit (h : isAsciiDigit b = true) : isAsciiAlphanumeric b = true := by
  have := of_decide_eq_true h
  exact decide_eq_true (by omega)

lemma semicolon_ends (b : UInt8) (h : byteIs ';' b = true) :
    (isReferenceByte b || byteIs ';' b) = true := by
  rw [h, Bool.or_true]

lemma numericReference_append {s y : List Char}
    (h : Decided (utf8 s) (utf8 y) 2) (h2 : 2 ≤ (utf8 s).length) :
    numericReference (s ++ y) position = numericReference s position := by
  unfold numericReference
  rw [utf8_append]
  have hx : ∀ b, (byteIs 'x' b || byteIs 'X' b) = true → isReferenceByte b = true := by
    intro b hb
    rcases Bool.or_eq_true_iff.mp hb with hb | hb <;> simp [isReferenceByte, hb]
  dsimp only
  rw [h.any_eq h2 fun b hb => by rw [hx b hb, Bool.true_or]]
  obtain ⟨hex, hhex⟩ : ∃ hex, ((utf8 s)[2]?).any (fun b => byteIs 'x' b || byteIs 'X' b) = hex :=
    ⟨_, rfl⟩
  simp only [hhex]
  -- the digits start after `#`, or after the `x`
  obtain ⟨hstart, hle⟩ : Decided (utf8 s) (utf8 y) (if hex then 3 else 2) ∧
      (if hex then 3 else 2) ≤ (utf8 s).length := by
    cases hex with
    | false => exact ⟨h, h2⟩
    | true =>
      obtain ⟨b, hb, hbx⟩ := (Option.any_eq_true _ _).mp hhex
      exact ⟨h.succ hb (hx b hbx), (List.getElem?_eq_some_iff.mp hb).1⟩
  have hdigit : ∀ b, (if hex then isAsciiHexdigit else isAsciiDigit) b = true →
      isReferenceByte b = true := by
    intro b hb
    cases hex with
    | false => exact isReferenceByte_of_alphanumeric (isAsciiAlphanumeric_of_digit hb)
    | true => exact isReferenceByte_of_alphanumeric (isAsciiAlphanumeric_of_hexdigit hb)
  obtain ⟨hskip, hcursor, hlen⟩ := hstart.skip hle hdigit
  rw [hskip, hcursor.any_eq hlen semicolon_ends, slice_append_right hlen]

lemma nameReference_append {s y : List Char}
    (h : Decided (utf8 s) (utf8 y) 1) (h1 : 1 ≤ (utf8 s).length) :
    nameReference (s ++ y) position false = nameReference s position false := by
  unfold nameReference
  rw [utf8_append]
  obtain ⟨hskip, hcursor, hlen⟩ := h.skip h1 fun _ => isReferenceByte_of_alphanumeric
  simp only [hskip, hcursor.any_eq hlen semicolon_ends, slice_append_right hlen, Bool.and_false,
    Bool.false_and]

/-- **A reference that is decided before a cut does not see the text after it.** -/
theorem consumeReference_append {u y : List Char} (h : (utf8 u).all isReferenceByte = true →
      ∀ c, y.head? = some c → continuesReference c = false) :
    consumeReference ('&' :: (u ++ y)) position false =
      consumeReference ('&' :: u) position false := by
  have hone : (utf8 ('&' :: u)).drop 1 = utf8 u := rfl
  have h1 : 1 ≤ (utf8 ('&' :: u)).length := Nat.le_add_left 1 _
  have hdec : Decided (utf8 ('&' :: u)) (utf8 y) 1 := by
    by_cases hall : (utf8 u).all isReferenceByte = true
    · right
      intro b hb
      rcases y with _ | ⟨c, y⟩
      · cases hb
      · have hc := h hall c rfl
        have hlead : leadByte c = b := by
          obtain ⟨x, xs, hx⟩ := exists_cons_of_ne_nil (@String.utf8EncodeChar_ne_nil c)
          rw [utf8_cons, hx] at hb
          cases hb
          simp [leadByte, hx]
        rw [continuesReference, hlead] at hc
        rw [Bool.or_eq_false_iff] at hc ⊢
        refine ⟨hc.1, ?_⟩
        -- a semicolon is one byte, so the byte tells it apart
        by_contra hsemi
        have hsemi : byteIs ';' b = true := by simpa using hsemi
        have hsemi : b.toNat = 59 := of_decide_eq_true hsemi
        have hne : c ≠ ';' := by simpa using hc.2
        rcases utf8EncodeChar_cases c with ⟨x, hx, -, hval, -⟩ | ⟨hbytes, -⟩
        · have hxb : x = b := by
            rw [← hlead]
            simp [leadByte, hx]
          rw [hxb, hsemi] at hval
          exact hne (Char.ext (UInt32.toNat_inj.mp hval.symm))
        · obtain ⟨x, xs, hx⟩ := exists_cons_of_ne_nil (@String.utf8EncodeChar_ne_nil c)
          have hxb : x = b := by
            rw [← hlead]
            simp [leadByte, hx]
          have := hbytes x (by rw [hx]; simp)
          rw [hxb] at this
          omega
    · left
      rw [hone]
      simpa using hall
  unfold consumeReference
  rw [← cons_append, utf8_append, hdec.any_eq h1 fun b hb => by
    simp [isReferenceByte, hb]]
  split_ifs with hnum
  · obtain ⟨b, hb, hsharp⟩ := (Option.any_eq_true _ _).mp hnum
    exact numericReference_append position (hdec.succ hb (by simp [isReferenceByte, hsharp]))
      (List.getElem?_eq_some_iff.mp hb).1
  · exact nameReference_append position hdec h1

/-! ## Tokens of text in pieces -/

lemma consumeReference_referencesSafe (inAttribute : Bool) :
    ReferencesSafe (consumeReference · · inAttribute) :=
  fun rest position => consumeReference_safe rest position inAttribute

lemma noReference_referencesSafe : ReferencesSafe fun _ _ => pure none :=
  fun rest _ => .pure (.none ('&' :: rest))

variable {decodeEntities : Bool}

/-- **The text of a token, in two pieces.** -/
theorem textData_append {a y : List Char} (h : CleanCut decodeEntities a y)
    (position : SourcePosition) :
    textData decodeEntities (a ++ y) position =
      textData decodeEntities a position >>= fun x =>
        (textData decodeEntities y (position.advancedBy a)).mapValue (x ++ ·) := by
  -- the second piece starts where the first one ends
  have hmove : ∀ {reference : List Char → SourcePosition → Report ParseError (Option (List Char × ℕ))},
      ReferencesSafe reference →
        text reference position ([] ++ a) y = text reference (position.advancedBy a) [] y := by
    intro reference href
    have hcut : SafeCut a ([] ++ y) := h.newline
    have := text_advance href position a [] hcut
    rwa [append_nil] at this
  cases decodeEntities with
  | false =>
    have hsplit := text_append noReference_referencesSafe position [] h.newline
      fun _ _ _ _ => rfl
    rwa [hmove noReference_referencesSafe] at hsplit
  | true =>
    have hsplit := text_append (consumeReference_referencesSafe false) position [] h.newline
      fun b u hau position => consumeReference_append position fun hall =>
        h.reference rfl ⟨b, u, hau, hall⟩
    rwa [hmove (consumeReference_referencesSafe false)] at hsplit

/-- Put a token in front of tokens, merged with the first one if both are text. -/
def glue (t : SpannedToken) : List SpannedToken → List SpannedToken
  | [] => [t]
  | u :: rest =>
    match t.token, u.token with
    | .character a, .character b => ⟨.character (a ++ b), ⟨t.span.start, u.span.stop⟩⟩ :: rest
    | _, _ => t :: u :: rest

/-- Merge adjacent character tokens: the texts one after another, the span from the first start to
the last end. -/
def coalesce (tokens : List SpannedToken) : List SpannedToken := tokens.foldr glue []

@[simp] lemma coalesce_cons (t : SpannedToken) (tokens : List SpannedToken) :
    coalesce (t :: tokens) = glue t (coalesce tokens) := rfl

/-- What comes after is merged on its own first. -/
lemma coalesce_congr {a b b' : List SpannedToken} (h : coalesce b = coalesce b') :
    coalesce (a ++ b) = coalesce (a ++ b') := by
  induction a with
  | nil => exact h
  | cons t a ih => rw [cons_append, cons_append, coalesce_cons, coalesce_cons, ih]

/-- Two character tokens in a row are one. -/
lemma glue_glue (s t : String) (start middle middle' stop : SourcePosition)
    (rest : List SpannedToken) :
    glue ⟨.character s, ⟨start, middle⟩⟩ (glue ⟨.character t, ⟨middle', stop⟩⟩ rest) =
      glue ⟨.character (s ++ t), ⟨start, stop⟩⟩ rest := by
  rcases rest with _ | ⟨u, rest⟩
  · rfl
  · rcases hu : u.token with _ | _ | _ | _ | data
    all_goals simp only [glue, hu, String.append_assoc]

/-- The tokens that `emit_characters` pushes for a text. -/
def emitText (decodeEntities : Bool) (position : SourcePosition) (a : List Char) :
    Report ParseError (List SpannedToken) :=
  (textData decodeEntities a position).mapValue fun data =>
    characterTokens data (.new position a)

lemma emitText_nil (decodeEntities : Bool) (position : SourcePosition) :
    emitText decodeEntities position [] = pure [] := by
  cases decodeEntities <;> rfl

/-- **Text emitted in two pieces gives the tokens of the whole**, after merging, and its errors. -/
theorem emitText_append {a y : List Char} (h : CleanCut decodeEntities a y)
    (position : SourcePosition) :
    ∃ t₁ m₁ t₂ m₂ t, emitText decodeEntities position a = .done t₁ m₁ ∧
      emitText decodeEntities (position.advancedBy a) y = .done t₂ m₂ ∧
      emitText decodeEntities position (a ++ y) = .done t (m₁ ++ m₂) ∧
      ∀ more, coalesce (t ++ more) = coalesce (t₁ ++ (t₂ ++ more)) := by
  obtain ⟨d₁, m₁, hd₁, hne₁⟩ := textData_safe decodeEntities a position
  obtain ⟨d₂, m₂, hd₂, hne₂⟩ := textData_safe decodeEntities y (position.advancedBy a)
  have hwhole := textData_append h position
  rw [hd₁, hd₂] at hwhole
  refine ⟨_, m₁, _, m₂, _, by rw [emitText, hd₁]; rfl, by rw [emitText, hd₂]; rfl,
    by rw [emitText, hwhole]; rfl, ?_⟩
  intro more
  by_cases ha : a = []
  · subst ha
    have hd : d₁ = [] := by
      have : textData decodeEntities [] position = .done [] [] := by cases decodeEntities <;> rfl
      rw [this] at hd₁
      cases hd₁
      rfl
    subst hd
    simp [characterTokens]
  · by_cases hy : y = []
    · subst hy
      have hd : d₂ = [] := by
        have : textData decodeEntities [] (position.advancedBy a) = .done [] [] := by
          cases decodeEntities <;> rfl
        rw [this] at hd₂
        cases hd₂
        rfl
      subst hd
      simp [characterTokens]
    · -- both pieces give a token, which merging puts together
      have hstop : position.advancedBy (a ++ y) = (position.advancedBy a).advancedBy y :=
        position.advancedBy_append h.newline
      have hne : d₁ ++ d₂ ≠ [] := by simp [hne₁ ha]
      simp only [characterTokens, hne₁ ha, hne₂ hy, hne, if_false, SourceSpan.new, hstop,
        String.ofList_append, cons_append, nil_append, coalesce_cons, glue_glue]

end WildBuzzard.Parser
