import WildBuzzard.Net.Reference

/-!
# What reading the metadata does

The specifications of the calls that read status lines, header lines and trailer lines, for every
script of the socket. A call that returns took the section the reference decoder finds at the front
of the stream; a call that fails on a quiet reader does so because there is none, or because of a
limit.

`Advances` is what every such call does, whether it returns or fails: **the lines it took off the
stream are the lines it counted**, so the bytes counted and the bytes left have a constant sum.
-/

namespace WildBuzzard.Net

open Lib Reference Call List Except

/-! ## Lines of the stream -/

/-- The lines stand in the stream with their line endings, one behind another. -/
def LinesOf (lines : List (List UInt8)) (stream : List UInt8) : Prop :=
  ∃ blocks, stream = blocks.flatten ∧ (lines.map (· ++ [13, 10])).Sublist blocks

/-- Between two places in the stream lines of it were recorded. -/
def Records (lines : List (List UInt8)) (rest : List UInt8) (lines' : List (List UInt8))
    (rest' : List UInt8) : Prop :=
  ∃ more blocks, lines' = lines ++ more ∧ rest = blocks.flatten ++ rest' ∧
    (more.map (· ++ [13, 10])).Sublist blocks

section records

variable {lines lines' lines'' : List (List UInt8)} {rest rest' rest'' : List UInt8}

/-- Bytes that no line was made of. -/
lemma Records.skip {bytes : List UInt8} (h : rest = bytes ++ rest') :
    Records lines rest lines rest' :=
  ⟨[], [bytes], (append_nil _).symm, by simpa using h, nil_sublist _⟩

lemma Records.refl : Records lines rest lines rest :=
  .skip (nil_append _).symm

/-- One line. -/
lemma Records.line {line : List UInt8} (h : rest = line ++ [13, 10] ++ rest') :
    Records lines rest (lines ++ [line]) rest' :=
  ⟨[line], [line ++ [13, 10]], rfl, by simpa using h, .refl _⟩

lemma Records.trans (h : Records lines rest lines' rest')
    (h' : Records lines' rest' lines'' rest'') : Records lines rest lines'' rest'' := by
  obtain ⟨more, blocks, rfl, rfl, hmore⟩ := h
  obtain ⟨more', blocks', rfl, rfl, hmore'⟩ := h'
  refine ⟨more ++ more', blocks ++ blocks', append_assoc .., by simp, ?_⟩
  rw [map_append]
  exact hmore.append hmore'

/-- All lines that were recorded stand in the stream. -/
lemma Records.linesOf (h : Records [] rest lines rest') : LinesOf lines rest := by
  obtain ⟨more, blocks, rfl, rfl, hmore⟩ := h
  exact ⟨blocks ++ [rest'], by simp, hmore.trans (sublist_append_left ..)⟩

end records

/-- The counters agree with what was accepted, and the limits were kept. -/
structure HeaderBudget.Sound (maxBytes maxCount : UInt64) (b : HeaderBudget) : Prop where
  bytes_eq : b.bytes = (b.lines.map fun line => line.length + 2).sum
  bytes_le : b.bytes ≤ maxBytes.toNat
  fields_le_count : b.fields.length ≤ b.count
  fields_le : b.fields.length ≤ maxCount.toNat

/-- The same under the limits of a configuration. -/
abbrev HeaderBudget.SoundIn (config : ClientConfig) : HeaderBudget → Prop :=
  Sound config.maxHeaderBytes config.maxHeaderCount

lemma HeaderBudget.sound_new (maxBytes maxCount : UInt64) :
    HeaderBudget.new.Sound maxBytes maxCount :=
  ⟨rfl, Nat.zero_le _, Nat.zero_le _, Nat.zero_le _⟩

/-! ## What a head announces -/

/-- A body whose length is announced may not be longer than the limit. -/
def HeadKind.Fits (maxBodyBytes : UInt64) : HeadKind → Prop
  | .final (.contentLength length) => length ≤ maxBodyBytes.toNat
  | _ => True

lemma determineBodyFraming_ok_iff {method : Method} {status : StatusCode}
    {contentLength : Option Nat} {chunked : Bool} {maxBodyBytes : UInt64} {result : BodyFraming} :
    determineBodyFraming method status contentLength chunked maxBodyBytes = .ok result ↔
      framing method status contentLength chunked = result ∧
        HeadKind.Fits maxBodyBytes (.final result) := by
  unfold determineBodyFraming framing
  split_ifs with hnone hchunked
  · simp only [ok.injEq, iff_self_and]
    rintro rfl
    trivial
  · simp only [ok.injEq, iff_self_and]
    rintro rfl
    trivial
  · cases contentLength with
    | none =>
      simp only [ok.injEq, Option.elim, iff_self_and]
      rintro rfl
      trivial
    | some length =>
      simp only [Option.elim]
      split_ifs with hlong
      · simp only [false_iff, not_and]
        rintro rfl
        exact Nat.not_le.mpr hlong
      · simp only [ok.injEq, iff_self_and]
        rintro rfl
        exact Nat.not_lt.mp hlong

lemma classifyHead_ok_iff {method : Method} {config : ClientConfig} {status : StatusCode}
    {headers : Headers} {kind : HeadKind} :
    classifyHead method config status headers = .ok kind ↔
      headKind method status headers = some kind ∧ kind.Fits config.maxBodyBytes := by
  unfold classifyHead headKind guard
  rw [identityCoded_eq, contentLength_eq, isChunked_eq]
  rcases validateContentCoding headers with e | ⟨⟩
  · simp [Except.toOption, bind, Except.bind]
  rcases parseContentLength headers with e | contentLength
  · simp [Except.toOption, bind, Except.bind]
  rcases parseTransferEncoding headers with e | chunked
  · simp [Except.toOption, bind, Except.bind]
  simp only [Except.toOption, Option.isSome_some, if_true, pure, bind, Except.bind, Option.bind]
  by_cases hambiguous : contentLength.isSome ∧ chunked
  · simp [hambiguous]
  by_cases hswitch : status.value = 101
  · simp [hambiguous, hswitch, throw, throwThe, MonadExceptOf.throw, failure]
  simp only [hambiguous, hswitch, if_true, if_false, not_false_eq_true, ne_eq]
  by_cases hinfo : status.isInformational
  · by_cases hbody : contentLength.isSome ∨ chunked
    · simp [hinfo, hbody, throw, throwThe, MonadExceptOf.throw, failure]
    · simp only [hinfo, hbody, if_true, if_false, not_false_eq_true, Except.pure, ok.injEq,
        Option.some.injEq, iff_self_and]
      rintro rfl
      trivial
  · by_cases hempty : status.value = 204 ∧ (contentLength.isSome ∨ chunked)
    · simp [hinfo, hempty, throw, throwThe, MonadExceptOf.throw, failure]
    · simp only [hinfo, hempty, Bool.false_eq_true, if_false, if_true, not_false_eq_true,
        Except.pure]
      cases hframing : determineBodyFraming method status contentLength chunked
          config.maxBodyBytes with
      | ok result =>
        obtain ⟨hresult, hfits⟩ := determineBodyFraming_ok_iff.mp hframing
        simp only [ok.injEq, Option.some.injEq, hresult, iff_self_and]
        rintro rfl
        exact hfits
      | error e =>
        simp only [reduceCtorEq, Option.some.injEq, false_iff, not_and]
        rintro rfl hfits
        rw [determineBodyFraming_ok_iff.mpr ⟨rfl, hfits⟩] at hframing
        simp at hframing

namespace Metered

/-! ## Progress -/

variable {maxBytes maxCount : UInt64} {s t u : Metered}

/-- The bytes that were counted, and those that are left to count. -/
def weight (s : Metered) : Nat := s.budget.bytes + s.reader.rest.length

/-- What a call on a metered reader does, whether it returns or fails. -/
structure Advances (maxBytes maxCount : UInt64) (s t : Metered) : Prop where
  took : ∃ bytes, s.reader.Took t.reader bytes
  records : Records s.budget.lines s.reader.rest t.budget.lines t.reader.rest
  weight_eq : t.weight = s.weight
  sound : t.budget.Sound maxBytes maxCount

/-- The same under the limits of a configuration. -/
abbrev AdvancesIn (config : ClientConfig) : Metered → Metered → Prop :=
  Advances config.maxHeaderBytes config.maxHeaderCount

namespace Advances

lemma refl (hwf : s.reader.Wf) (h : s.budget.Sound maxBytes maxCount) :
    Advances maxBytes maxCount s s :=
  ⟨⟨[], .refl hwf⟩, .refl, rfl, h⟩

variable (h : Advances maxBytes maxCount s t)
include h

lemma trans (h' : Advances maxBytes maxCount t u) : Advances maxBytes maxCount s u := by
  obtain ⟨_, htook⟩ := h.took
  obtain ⟨_, htook'⟩ := h'.took
  exact ⟨⟨_, htook.trans htook'⟩, h.records.trans h'.records, h'.weight_eq.trans h.weight_eq,
    h'.sound⟩

lemma wf : t.reader.Wf := by
  obtain ⟨_, htook⟩ := h.took
  exact htook.wf

lemma undisturbed (hu : s.reader.Undisturbed) : t.reader.Undisturbed := by
  obtain ⟨_, htook⟩ := h.took
  exact htook.undisturbed hu

end Advances

/-! ## Lines and fields -/

/-- A line was taken off the stream, and no field was counted. -/
structure TookLine (maxBytes maxCount : UInt64) (s : Metered) (line : List UInt8) (t : Metered) :
    Prop where
  advances : Advances maxBytes maxCount s t
  count_eq : t.budget.count = s.budget.count
  line_eq : splitLine s.reader.rest = some (line, t.reader.rest)

/-- **A metadata line is the line at the front of the stream**, and it fits the budget. -/
theorem readMetadataLine_sat (hwf : s.reader.Wf) (hsound : s.budget.Sound maxBytes maxCount)
    (operation : Operation) :
    (readMetadataLine maxBytes operation s).Ends (TookLine maxBytes maxCount s)
      (fun _ t => Advances maxBytes maxCount s t ∧ t.budget = s.budget ∧ (s.reader.Undisturbed →
        ∀ line rest, splitLine s.reader.rest = some (line, rest) →
          maxBytes.toNat + rest.length < s.weight)) := by
  have hle := hsound.bytes_le
  refine sat_read_bind.mpr (sat_check_bind.mpr ⟨fun _ => ?_, fun hbad => absurd hle hbad⟩)
  refine sat_check_bind.mpr ⟨fun hroom => ?_, fun hfull => ?_⟩
  · refine sat_bind.mpr (sat_focus.mpr
      ((WireReader.readCrlfLine_sat hwf _ _ _).imp₂ ?_ ?_))
    · rintro ⟨line, wireBytes⟩ r ⟨htook, hcr, hlf, hlen, hwire⟩
      dsimp only at hcr hlf hlen hwire
      subst hwire
      have hfits : s.budget.bytes + (line.length + 2) ≤ maxBytes.toNat := by omega
      have hlimit := maxBytes.toNat_lt
      refine sat_check_bind.mpr ⟨fun _ => ?_, fun hbig => absurd ?_ hbig⟩
      case refine_2 => exact lt_of_le_of_lt hfits hlimit
      have hrest := htook.rest_eq
      refine ⟨⟨⟨_, htook⟩, .line hrest, ?_, ?_, hfits, hsound.fields_le_count, hsound.fields_le⟩,
        rfl, ?_⟩
      · simp only [weight, hrest, length_append, length_cons, length_nil]
        omega
      · simp only [map_append, sum_append, ← hsound.bytes_eq]
        simp
      · rw [hrest, append_assoc]
        exact splitLine_append hcr hlf _
    · rintro e r ⟨htook, hnone⟩
      have hrest : s.reader.rest = r.rest := by simpa using htook.rest_eq
      refine ⟨⟨⟨_, htook⟩, .skip htook.rest_eq, by simp [weight, hrest], hsound⟩, rfl,
        fun hu line rest hsplit => ?_⟩
      have hlong : ¬line.length ≤ maxBytes.toNat - s.budget.bytes - 2 := by
        intro hshort
        have hsome := takeLine_eq_some.mpr ⟨hsplit, hshort⟩
        rw [hnone hu] at hsome
        simp at hsome
      have hlength := length_of_splitLine hsplit
      unfold weight
      omega
  · refine ⟨.refl hwf hsound, rfl, fun _ line rest hsplit => ?_⟩
    have hlength := length_of_splitLine hsplit
    unfold weight
    omega

/-- One more field is counted. -/
def counted (s : Metered) : Metered :=
  { s with budget := { s.budget with count := s.budget.count + 1 } }

/-- One more field is accepted. -/
def accepted (field : Field) (s : Metered) : Metered :=
  { s with budget := { s.budget with fields := s.budget.fields ++ [field] } }

lemma advances_counted (hwf : s.reader.Wf) (h : s.budget.Sound maxBytes maxCount) :
    Advances maxBytes maxCount s s.counted :=
  ⟨⟨[], .refl hwf⟩, .refl, rfl,
    ⟨h.bytes_eq, h.bytes_le, Nat.le_succ_of_le h.fields_le_count, h.fields_le⟩⟩

/-- A field that was counted within the limit may be accepted. -/
lemma advances_accepted (hwf : s.reader.Wf) (h : s.budget.Sound maxBytes maxCount)
    (hcount : s.budget.count + 1 ≤ maxCount.toNat) (field : Field) :
    Advances maxBytes maxCount s (s.counted.accepted field) := by
  have hfields := h.fields_le_count
  refine ⟨⟨[], .refl hwf⟩, .refl, rfl, ⟨h.bytes_eq, h.bytes_le, ?_, ?_⟩⟩
  · simp only [accepted, counted, length_append, length_singleton]
    omega
  · simp only [accepted, counted, length_append, length_singleton]
    omega

lemma countField_sat (hwf : s.reader.Wf) (hsound : s.budget.Sound maxBytes maxCount) :
    (countField maxCount s).Ends (fun _ t => t = s.counted ∧ s.budget.count + 1 ≤ maxCount.toNat)
      (fun _ t => Advances maxBytes maxCount s t ∧ maxCount.toNat < s.budget.count + 1) := by
  have hlimit := maxCount.toNat_lt
  refine sat_read_bind.mpr (sat_check_bind.mpr ⟨fun _ => ?_, fun hbig => ?_⟩)
  · refine sat_modify_bind.mpr ?_
    unfold check
    split_ifs with hcount
    · exact ⟨rfl, hcount⟩
    · exact ⟨advances_counted hwf hsound, by omega⟩
  · exact ⟨.refl hwf hsound, by omega⟩

/-! ## Sections of fields -/

section sections

variable (maxBytes maxCount : UInt64) (acceptable : Field → Prop) (s : Metered)

/-- A section of acceptable fields was read. -/
structure ReadSection (fields : List Field) (t : Metered) : Prop where
  advances : Advances maxBytes maxCount s t
  count_le : s.budget.count ≤ maxCount.toNat → t.budget.count ≤ maxCount.toNat
  section_eq : fieldSection s.reader.rest = some (fields, t.reader.rest)
  acceptable : ∀ field ∈ fields, acceptable field
  count_eq : t.budget.count = s.budget.count + fields.length

/-- The limits do not admit the section of acceptable fields that the stream starts with, if it
starts with one. -/
structure RefusedSection (t : Metered) : Prop where
  advances : Advances maxBytes maxCount s t
  refused : s.reader.Undisturbed → ∀ fields after,
    fieldSection s.reader.rest = some (fields, after) → (∀ field ∈ fields, acceptable field) →
      maxBytes.toNat + after.length < s.weight ∨ maxCount.toNat < s.budget.count + fields.length

end sections

section fields

variable {acceptable : Field → Prop} {line : List UInt8} {field : Field} {fields : List Field}

lemma RefusedSection.of_line (hadv : Advances maxBytes maxCount s t) (h : s.reader.Undisturbed →
      ∀ line rest, splitLine s.reader.rest = some (line, rest) →
        maxBytes.toNat + rest.length < s.weight) :
    RefusedSection maxBytes maxCount acceptable s t := by
  refine ⟨hadv, fun hu fields after hsection _ => ?_⟩
  cases hline : splitLine s.reader.rest with
  | none =>
    rw [fieldSection_of_none hline] at hsection
    simp at hsection
  | some p =>
    have hlong := h hu p.1 p.2 hline
    have hle := fieldSection_rest_le hline hsection
    exact .inl (by omega)

lemma ReadSection.nil (h : TookLine maxBytes maxCount s [] t) :
    ReadSection maxBytes maxCount acceptable s [] t := by
  refine ⟨h.advances, fun hle => h.count_eq ▸ hle, ?_, by simp, by simpa using h.count_eq⟩
  rw [fieldSection_of_line h.line_eq, if_pos rfl]

variable (h : TookLine maxBytes maxCount s line t)
include h

lemma TookLine.rest_lt {fuel : Nat} (hfuel : s.reader.rest.length < fuel + 1) :
    t.reader.rest.length < fuel := by
  have := length_of_splitLine h.line_eq
  omega

lemma TookLine.accepted (hle : t.budget.count + 1 ≤ maxCount.toNat) (field : Field) :
    Advances maxBytes maxCount s (t.counted.accepted field) :=
  h.advances.trans (advances_accepted h.advances.wf h.advances.sound hle field)

variable (hne : line ≠ [])
include hne

/-- A section whose first line is not empty starts with a field. -/
lemma TookLine.fieldSection_cons {after : List UInt8}
    (hsection : fieldSection s.reader.rest = some (fields, after)) :
    ∃ field fields', fields = field :: fields' ∧ parseHeaderLine line = .ok field ∧
      fieldSection t.reader.rest = some (fields', after) := by
  rw [fieldSection_of_line h.line_eq, if_neg hne, fieldLine_eq] at hsection
  cases hparse : parseHeaderLine line with
  | error e =>
    rw [hparse] at hsection
    simp [Except.toOption] at hsection
  | ok field =>
    rw [hparse] at hsection
    obtain ⟨⟨fields', after'⟩, hrest, heq⟩ := Option.map_eq_some_iff.mp hsection
    obtain ⟨rfl, rfl⟩ : field :: fields' = fields ∧ after' = after := by simpa using heq
    exact ⟨field, fields', rfl, rfl, hrest⟩

lemma ReadSection.cons (hle : t.budget.count + 1 ≤ maxCount.toNat)
    (hfield : parseHeaderLine line = .ok field) (hok : acceptable field)
    (hrest : ReadSection maxBytes maxCount acceptable (t.counted.accepted field) fields u) :
    ReadSection maxBytes maxCount acceptable s (field :: fields) u := by
  have hsection : fieldSection t.reader.rest = _ := hrest.section_eq
  have htotal : u.budget.count = t.budget.count + 1 + fields.length := hrest.count_eq
  refine ⟨(h.accepted hle field).trans hrest.advances, fun _ => hrest.count_le hle, ?_,
    forall_mem_cons.mpr ⟨hok, hrest.acceptable⟩, ?_⟩
  · rw [fieldSection_of_line h.line_eq, if_neg hne, fieldLine_eq, hfield, Except.toOption, hsection]
    rfl
  · rw [htotal, h.count_eq, length_cons]
    omega

namespace RefusedSection

lemma cons (hle : t.budget.count + 1 ≤ maxCount.toNat)
    (hrest : RefusedSection maxBytes maxCount acceptable (t.counted.accepted field) u) :
    RefusedSection maxBytes maxCount acceptable s u := by
  have hmore := h.accepted hle field
  refine ⟨hmore.trans hrest.advances, fun hu fields after hsection hall => ?_⟩
  obtain ⟨_, fields', rfl, -, hsection'⟩ := h.fieldSection_cons hne hsection
  have := hrest.refused (hmore.undisturbed hu) fields' after hsection' fun f hf =>
    hall f (mem_cons_of_mem _ hf)
  have hcount : (t.counted.accepted field).budget.count = s.budget.count + 1 :=
    congrArg (· + 1) h.count_eq
  rw [hmore.weight_eq, hcount] at this
  rw [length_cons]
  omega

lemma of_count (hadv : Advances maxBytes maxCount t u) (hmany : maxCount.toNat < t.budget.count + 1) :
    RefusedSection maxBytes maxCount acceptable s u := by
  refine ⟨h.advances.trans hadv, fun _ fields after hsection _ => .inr ?_⟩
  obtain ⟨_, fields', rfl, -, -⟩ := h.fieldSection_cons hne hsection
  rw [h.count_eq] at hmany
  rw [length_cons]
  omega

lemma of_field (hbad : ∀ field, parseHeaderLine line = .ok field → ¬acceptable field) :
    RefusedSection maxBytes maxCount acceptable s t.counted := by
  refine ⟨h.advances.trans (advances_counted h.advances.wf h.advances.sound),
    fun _ fields after hsection hall => ?_⟩
  obtain ⟨field, fields', rfl, hparse, -⟩ := h.fieldSection_cons hne hsection
  exact absurd (hall field mem_cons_self) (hbad field hparse)

end RefusedSection

end fields

/-! ## Heads -/

variable {config : ClientConfig}

/-- **A section of fields is read exactly when the reference decoder finds one** that the limits
admit. -/
theorem readFields_sat {fuel : Nat} (headers : Headers)
    (hwf : s.reader.Wf) (hsound : s.budget.SoundIn config)
    (hfuel : s.reader.rest.length < fuel) :
    (readFields config fuel headers s).Ends
      (fun result t => ∃ fields, result = ⟨headers.fields ++ fields⟩ ∧
        ReadSection config.maxHeaderBytes config.maxHeaderCount (fun _ => True) s fields t)
      (fun _ => RefusedSection config.maxHeaderBytes config.maxHeaderCount (fun _ => True) s) := by
  induction fuel generalizing s headers with
  | zero => exact absurd hfuel (Nat.not_lt_zero _)
  | succ fuel ih =>
    refine sat_seq (readMetadataLine_sat hwf hsound .readHead) ?_ ?_
    · intro line t hline
      have hadv := hline.advances
      split_ifs with hnil
      · subst hnil
        exact ⟨[], by simp, .nil hline⟩
      · refine sat_seq (countField_sat hadv.wf hadv.sound) ?_ ?_
        · rintro _ _ ⟨rfl, hle⟩
          refine sat_ofExcept_bind.mpr ⟨fun field hfield => sat_modify_bind.mpr ?_, fun e hbad => ?_⟩
          · have hmore := hline.accepted hle field
            refine (ih (headers.append field) hmore.wf hmore.sound (hline.rest_lt hfuel)).imp₂ ?_ ?_
            · rintro result u ⟨fields, rfl, hrest⟩
              refine ⟨field :: fields, by simp [Headers.append], ?_⟩
              exact .cons hline hnil hle hfield trivial hrest
            · exact fun e u hrest => .cons hline hnil hle hrest
          · exact .of_field hline hnil (by simp [hbad])
        · rintro e u ⟨hmore, hmany⟩
          exact .of_count hline hnil hmore hmany
    · rintro e t ⟨hadv, -, hfail⟩
      exact .of_line hadv hfail

lemma available_eq (s : Metered) : s.available = s.reader.rest.length := by
  simp [available, WireReader.rest]

lemma parseOneResponseHead_sat (hwf : s.reader.Wf) (hsound : s.budget.SoundIn config) :
    (parseOneResponseHead config s).Ends (fun head t => AdvancesIn config s t ∧
        (s.budget.count ≤ config.maxHeaderCount.toNat →
          t.budget.count ≤ config.maxHeaderCount.toNat) ∧
        oneHead s.reader.rest = some (head, t.reader.rest) ∧
        t.budget.count = s.budget.count + head.2.2.2.fields.length)
      (fun _ t => AdvancesIn config s t ∧
        (s.reader.Undisturbed → ∀ head after, oneHead s.reader.rest = some (head, after) →
          config.maxHeaderBytes.toNat + after.length < s.weight ∨
            config.maxHeaderCount.toNat < s.budget.count + head.2.2.2.fields.length)) := by
  refine sat_seq (readMetadataLine_sat hwf hsound .readHead) ?_ ?_
  · rintro line t ⟨hadv, hcount, hline⟩
    refine sat_ofExcept_bind.mpr ⟨?_, fun e hbad => ?_⟩
    · rintro ⟨version, status, reasonPhrase⟩ hstatus
      refine sat_read_bind.mpr (sat_bind.mpr ?_)
      have hfuel : t.reader.rest.length < t.available + 1 := by
        rw [available_eq]
        exact Nat.lt_succ_self _
      refine (readFields_sat .new hadv.wf hadv.sound hfuel).imp₂ ?_ ?_
      · rintro headers u ⟨fields, rfl, hfields, hkept, hsection, -, htotal⟩
        refine ⟨hadv.trans hfields, fun h => hkept (hcount ▸ h), ?_, ?_⟩
        · simp [oneHead, hline, statusLine_eq, hstatus, Except.toOption, hsection, Headers.new]
        · rw [htotal, hcount]
          simp [Headers.new]
      · rintro e u ⟨hfields, hfail⟩
        refine ⟨hadv.trans hfields, fun hu head after hhead => ?_⟩
        simp only [oneHead, hline, statusLine_eq, hstatus, Except.toOption, Option.bind_eq_bind,
          Option.bind_some, Option.bind_eq_some_iff] at hhead
        obtain ⟨⟨fields, after'⟩, hsection, heq⟩ := hhead
        obtain ⟨rfl, rfl⟩ : (version, status, reasonPhrase, (⟨fields⟩ : Headers)) = head ∧
            after' = after := by simpa using heq
        have := hfail (hadv.undisturbed hu) fields after' hsection fun _ _ => trivial
        rwa [hadv.weight_eq, hcount] at this
    · refine ⟨hadv, fun _ head after hhead => ?_⟩
      simp [oneHead, hline, statusLine_eq, hbad, Except.toOption] at hhead
  · rintro e t ⟨hadv, -, hfail⟩
    refine ⟨hadv, fun hu head after hhead => .inl ?_⟩
    simp only [oneHead, Option.bind_eq_bind, Option.bind_eq_some_iff] at hhead
    obtain ⟨⟨line, rest⟩, hline, _, _, ⟨fields, after'⟩, hsection, heq⟩ := hhead
    obtain ⟨_, rfl⟩ : _ ∧ after' = after := by simpa using heq
    have hlong := hfail hu line rest hline
    have hless : after'.length < rest.length := length_of_fieldSection hsection
    omega

/-- The limits admit the heads, after so many fields; `weight` is the bytes counted before the heads
and all that follow. -/
structure Admits (config : ClientConfig) (weight count : Nat) (h : Heads) : Prop where
  bytes : weight ≤ config.maxHeaderBytes.toNat + h.rest.length
  fields : count + h.fieldCount ≤ config.maxHeaderCount.toNat
  informational : h.head.informationalResponses ≤ config.maxInformationalResponses.toNat
  length : HeadKind.Fits config.maxBodyBytes (.final h.head.framing)

/-- Heads after an informational head are admitted when the heads with it are. -/
lemma admits_informational {h : Heads} {n : Nat}
    (hweight : t.weight = s.weight) (hcount : t.budget.count = s.budget.count + n) :
    Admits config s.weight s.budget.count { h with fieldCount := n + h.fieldCount } ↔
      Admits config t.weight t.budget.count h := by
  rw [hweight, hcount]
  constructor
  · rintro ⟨hbytes, hfields, hinfo, hlength⟩
    exact ⟨hbytes, by dsimp only at hfields; omega, hinfo, hlength⟩
  · rintro ⟨hbytes, hfields, hinfo, hlength⟩
    exact ⟨hbytes, by dsimp only; omega, hinfo, hlength⟩

lemma countInformational_sat (config : ClientConfig) (count : Nat) :
    (countInformational config count s).Ends
      (fun next t => t = s ∧ next = count + 1 ∧ count + 1 ≤ config.maxInformationalResponses.toNat)
      (fun _ t => t = s ∧ config.maxInformationalResponses.toNat < count + 1) := by
  have hlimit := config.maxInformationalResponses.toNat_lt
  refine sat_check_bind.mpr ⟨fun _ => ?_, fun hbig => ⟨rfl, by omega⟩⟩
  exact sat_check_bind.mpr ⟨fun hle => ⟨rfl, rfl, hle⟩, fun hbig => ⟨rfl, by omega⟩⟩

/-- **The heads are read exactly when the reference decoder finds heads** that the limits admit. -/
theorem readHeads_sat {fuel : Nat} (method : Method) {informational : Nat}
    (hwf : s.reader.Wf) (hsound : s.budget.SoundIn config)
    (hcount : s.budget.count ≤ config.maxHeaderCount.toNat)
    (hinfo : informational ≤ config.maxInformationalResponses.toNat)
    (hfuel : s.reader.rest.length < fuel) :
    (readHeads method config fuel informational s).Ends (fun head t => AdvancesIn config s t ∧
        ∃ h, heads method informational s.reader.rest = some h ∧ h.head = head ∧
          h.rest = t.reader.rest ∧ t.budget.count = s.budget.count + h.fieldCount ∧
          Admits config s.weight s.budget.count h) (fun _ t => AdvancesIn config s t ∧
        (s.reader.Undisturbed → ∀ h, heads method informational s.reader.rest = some h →
          ¬Admits config s.weight s.budget.count h)) := by
  induction fuel generalizing s informational with
  | zero => exact absurd hfuel (Nat.not_lt_zero _)
  | succ fuel ih =>
    refine sat_seq (parseOneResponseHead_sat hwf hsound) ?_ ?_
    · rintro ⟨version, status, reasonPhrase, headers⟩ t ⟨hadv, hkept, hhead, htotal⟩
      dsimp only at htotal
      have hheads := heads_of_head method informational hhead
      refine sat_ofExcept_bind.mpr ⟨fun kind hkind => ?_, fun e hbad => ?_⟩
      · obtain ⟨hkind, hfits⟩ := classifyHead_ok_iff.mp hkind
        rw [hkind] at hheads
        cases kind with
        | informational =>
          refine sat_bind.mpr
            ((countInformational_sat config informational).imp₂ ?_ ?_)
          · rintro _ _ ⟨rfl, rfl, hmore⟩
            have hless := length_of_oneHead hhead
            refine (ih hadv.wf hadv.sound (hkept hcount) hmore (by omega)).imp₂ ?_ ?_
            · rintro head u ⟨hrest, h, hsome, rfl, hend, hfields, hadmits⟩
              rw [hsome] at hheads
              refine ⟨hadv.trans hrest, _, hheads, rfl, hend, by simp only; omega, ?_⟩
              exact (admits_informational hadv.weight_eq htotal).mpr hadmits
            · rintro e u ⟨hrest, hfail⟩
              refine ⟨hadv.trans hrest, fun hu h hsome hadmits => ?_⟩
              rw [hheads] at hsome
              obtain ⟨h', hrec, rfl⟩ := Option.map_eq_some_iff.mp hsome
              exact hfail (hadv.undisturbed hu) h' hrec
                ((admits_informational hadv.weight_eq htotal).mp hadmits)
          · rintro e _ ⟨rfl, hmany⟩
            refine ⟨hadv, fun _ h hsome hadmits => ?_⟩
            rw [hheads] at hsome
            obtain ⟨h', hrec, rfl⟩ := Option.map_eq_some_iff.mp hsome
            have hless := (heads_bounds hrec).1
            have hle := hadmits.informational
            dsimp only at hle
            omega
        | final framing =>
          refine ⟨hadv, _, hheads, rfl, rfl, htotal, ?_, ?_, hinfo, hfits⟩
          · have hle := hadv.sound.bytes_le
            rw [← hadv.weight_eq, weight]
            dsimp only
            omega
          · dsimp only
            rw [← htotal]
            exact hkept hcount
      · refine ⟨hadv, fun _ h hsome hadmits => ?_⟩
        have hnot : ∀ kind, headKind method status headers = some kind →
            ¬kind.Fits config.maxBodyBytes := by
          intro kind hkind hfits
          rw [classifyHead_ok_iff.mpr ⟨hkind, hfits⟩] at hbad
          simp at hbad
        obtain ⟨_, _, _, _, _, hone, hcase⟩ := heads_cases hsome
        rw [hhead] at hone
        obtain ⟨⟨rfl, rfl, rfl, rfl⟩, rfl⟩ := hone
        obtain ⟨hkind, _⟩ | ⟨framing, hkind, rfl⟩ := hcase
        · exact hnot _ hkind trivial
        · exact hnot _ hkind hadmits.length
    · rintro e t ⟨hadv, hfail⟩
      refine ⟨hadv, fun hu h hsome hadmits => ?_⟩
      have hbytes := hadmits.bytes
      have hfields := hadmits.fields
      obtain ⟨_, _, _, headers, rest, hone, ⟨_, h', hrec, rfl⟩ | ⟨_, _, rfl⟩⟩ := heads_cases hsome
      · have hless := (heads_bounds hrec).2
        have := hfail hu _ _ hone
        dsimp only at hbytes hfields this
        omega
      · have := hfail hu _ _ hone
        dsimp only at hbytes hfields this
        omega

/-- A response head that is read is the one the reference decoder finds. -/
lemma parseResponseHead_sat (method : Method) (hwf : s.reader.Wf)
    (hsound : s.budget.SoundIn config) (hcount : s.budget.count ≤ config.maxHeaderCount.toNat) :
    (parseResponseHead method config s).Ends (fun head t => AdvancesIn config s t ∧
        ∃ h, heads method 0 s.reader.rest = some h ∧ h.head = head ∧
          h.rest = t.reader.rest ∧ t.budget.count = s.budget.count + h.fieldCount ∧
          Admits config s.weight s.budget.count h) (fun _ t => AdvancesIn config s t ∧
        (s.reader.Undisturbed → ∀ h, heads method 0 s.reader.rest = some h →
          ¬Admits config s.weight s.budget.count h)) := by
  refine sat_read_bind.mpr (readHeads_sat method hwf hsound hcount (Nat.zero_le _) ?_)
  rw [available_eq]
  exact Nat.lt_succ_self _

end Metered

end WildBuzzard.Net
