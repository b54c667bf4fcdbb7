import NumericWire.Document
/-!
# NumericWire.Proofs.DocumentCheck

**What a check of a document accepts.** An object spells a document if the field of each part
holds a value that is taken for that part, within its bounds, and if there is no field of another
name (`Document.IsSpelledBy`). That is exactly what is accepted (`check_eq_ok_iff`); all else is
refused with at least one issue (`check_answer`).

An object is checked with each name kept once. This is invisible: the last field of a name is the
one that counts, and it is the one that is kept (`field?_distinctFields`).
-/

namespace NumericWire

namespace Json

/-! ### Fields -/

variable {name n : String} {v : Json} {fields kept : List (String × Json)}

/-- A field counts unless another of its name stands behind it. -/
theorem field?_cons (name n : String) (v : Json) (rest : List (String × Json)) :
    field? name ((n, v) :: rest) = (field? name rest).or (if n = name then some v else none) := by
  have hfold : ∀ (rest : List (String × Json)) (found : Option Json),
      rest.foldl (fun found field => if field.1 = name then some field.2 else found) found =
        (field? name rest).or found := by
    intro rest
    induction rest with
    | nil => simp [field?]
    | cons field rest ih =>
        intro found
        have hfield : field? name (field :: rest) = rest.foldl
            (fun found field => if field.1 = name then some field.2 else found)
            (if field.1 = name then some field.2 else none) := rfl
        rw [hfield, List.foldl_cons, ih, ih]
        by_cases hm : field.1 = name
        · cases field? name rest <;> simp [hm]
        · simp [hm]
  exact hfold rest (if n = name then some v else none)

theorem field?_nil (name : String) : field? name [] = none := rfl

/-- A field is found just if its name is there. -/
theorem isSome_field?_iff : (field? name fields).isSome ↔ name ∈ fields.map Prod.fst := by
  induction fields with
  | nil => simp [field?_nil]
  | cons field rest ih =>
      obtain ⟨n, v⟩ := field
      rw [field?_cons, Option.isSome_or, Bool.or_eq_true, ih, List.map_cons, List.mem_cons]
      by_cases hn : n = name
      · simp [hn]
      · have hne : name ≠ n := fun h => hn h.symm
        simp [hn, hne]

/-- A new value in the place of a field. -/
theorem field?_replace (name n : String) (v : Json) (kept : List (String × Json)) :
    field? name (kept.map fun (m, u) => if m = n then (m, v) else (m, u)) =
      if n = name then (field? name kept).map fun _ => v else field? name kept := by
  induction kept with
  | nil => simp [field?_nil]
  | cons field rest ih =>
      obtain ⟨m, u⟩ := field
      by_cases hm : m = n
      · subst m
        simp only [List.map_cons, if_true, field?_cons, ih]
        by_cases hn : n = name
        · cases field? name rest <;> simp [hn]
        · simp [hn]
      · simp only [List.map_cons, if_neg hm, field?_cons, ih]
        by_cases hn : n = name
        · subst n
          cases field? name rest <;> simp [hm]
        · simp [hn]

theorem field?_insertField (name n : String) (v : Json) (kept : List (String × Json)) :
    field? name (insertField kept n v) = if n = name then some v else field? name kept := by
  have hany : kept.any (·.1 == n) = true ↔ (field? n kept).isSome := by
    rw [isSome_field?_iff]
    simp
  rw [insertField]
  by_cases hkept : kept.any (·.1 == n) = true
  · rw [if_pos hkept, field?_replace]
    by_cases hn : n = name
    · subst n
      obtain ⟨u, hu⟩ := Option.isSome_iff_exists.1 (hany.1 hkept)
      simp [hu]
    · simp [hn]
  · rw [if_neg hkept]
    simp [field?, List.foldl_append]

/-- **Keeping each name once loses no field that counts.** -/
theorem field?_distinctFields (name : String) (fields : List (String × Json)) :
    field? name (distinctFields fields) = field? name fields := by
  have hfold : ∀ (fields kept : List (String × Json)),
      field? name (fields.foldl (fun kept (n, v) => insertField kept n v) kept) =
        (field? name fields).or (field? name kept) := by
    intro fields
    induction fields with
    | nil => simp [field?_nil]
    | cons field rest ih =>
        intro kept
        obtain ⟨n, v⟩ := field
        rw [List.foldl_cons, ih, field?_insertField, field?_cons]
        by_cases hn : n = name
        · cases field? name rest <;> simp [hn]
        · simp [hn]
  rw [distinctFields, hfold, field?_nil, Option.or_none]

theorem distinctItems_eq_map (items : List Json) : distinctItems items = items.map distinct := by
  induction items with
  | nil => rfl
  | cons v rest ih => rw [distinctItems, ih, List.map_cons]

theorem field?_distinctValues (name : String) (fields : List (String × Json)) :
    field? name (distinctValues fields) = (field? name fields).map distinct := by
  induction fields with
  | nil => rfl
  | cons field rest ih =>
      obtain ⟨n, v⟩ := field
      rw [distinctValues, field?_cons, field?_cons, ih]
      by_cases hn : n = name
      · cases field? name rest <;> simp [hn]
      · simp [hn]

/-- The fields of an object whose names are kept once, at every depth. -/
theorem field?_distinct (name : String) (fields : List (String × Json)) :
    field? name (distinctFields (distinctValues fields)) = (field? name fields).map distinct := by
  rw [field?_distinctFields, field?_distinctValues]

theorem mem_names_distinct (name : String) (fields : List (String × Json)) :
    name ∈ (distinctFields (distinctValues fields)).map Prod.fst ↔ name ∈ fields.map Prod.fst := by
  rw [← isSome_field?_iff, field?_distinct, Option.isSome_map, isSome_field?_iff]

end Json

namespace Document

variable {source : Source} {sign : Sign} {weight scale least greatest n : Int}
  {digits ds : List Int} {fields : List (String × Json)} {items : List Json} {v : Json}
  {d : Document} {name : String}

/-! ### Documents that are spelled -/

/-- Whether the fields of an object spell a number: the last field of each name counts, and it
may hold anything that is taken for an integer. -/
structure SpellsNumber (fields : List (String × Json)) (s : Sign) (w c : Int) (ds : List Int) :
    Prop where
  sign : Json.field? "sign" fields = some (.string (signText s))
  weight : ∃ v, Json.field? "weight" fields = some v ∧ integerOf v = .ok w
  weight_bounds : -32768 ≤ w ∧ w ≤ 32767
  scale : ∃ v, Json.field? "scale" fields = some v ∧ integerOf v = .ok c
  scale_bounds : 0 ≤ c ∧ c ≤ 65535
  digits : ∃ items, Json.field? "digits" fields = some (.list items) ∧
    items.map integerOf = ds.map .ok
  digits_bounds : ∀ d ∈ ds, 0 ≤ d ∧ d ≤ 9999
  /-- There is no other field. -/
  names : ∀ name ∈ fields.map Prod.fst, name ∈ ["sign", "weight", "scale", "digits"]

/-- Whether the fields of an object spell not-a-number: there is the sign, and no other field. -/
structure SpellsNan (fields : List (String × Json)) : Prop where
  sign : Json.field? "sign" fields = some (.string nanText)
  names : ∀ name ∈ fields.map Prod.fst, name = "sign"

/-- Whether the fields of an object spell a document. -/
def IsSpelledBy (fields : List (String × Json)) : Document → Prop
  | number sign weight scale digits => SpellsNumber fields sign weight scale digits
  | nan => SpellsNan fields

/-! ### Integers -/

theorem boundedInteger_eq_ok_iff :
    boundedInteger least greatest v = .ok n ↔
      integerOf v = .ok n ∧ least ≤ n ∧ n ≤ greatest := by
  unfold boundedInteger
  cases integerOf v with
  | error problem => simp
  | ok m =>
      by_cases hleast : m < least
      · simp [hleast]
        omega
      · by_cases hgreatest : greatest < m
        · simp [hleast, hgreatest]
          omega
        · simp [hleast, hgreatest]
          omega

theorem integerField_eq_ok_iff :
    integerField least greatest name fields = .ok n ↔
      ∃ v, Json.field? name fields = some v ∧ integerOf v = .ok n ∧ least ≤ n ∧ n ≤ greatest := by
  unfold integerField
  cases Json.field? name fields with
  | none => simp
  | some v =>
      simp only [Option.some.injEq, exists_eq_left', ← boundedInteger_eq_ok_iff]
      cases boundedInteger least greatest v <;> simp

/-- A field without an issue holds an integer. -/
theorem exists_integerField (h : issuesOf (integerField least greatest name fields) = []) :
    ∃ n, integerField least greatest name fields = .ok n := by
  unfold integerField at h ⊢
  cases hfield : Json.field? name fields with
  | none => simp [hfield, issuesOf] at h
  | some v =>
      cases hv : boundedInteger least greatest v with
      | error problem => simp [hfield, hv, issuesOf] at h
      | ok n => exact ⟨n, by simp [hv]⟩

/-! ### Digits -/

theorem digitIssues_eq_nil_iff {position : Nat} :
    digitIssues position items = [] ↔ ∃ ds : List Int, items.map digit = ds.map .ok := by
  induction items generalizing position with
  | nil => exact ⟨fun _ => ⟨[], rfl⟩, fun _ => rfl⟩
  | cons v items ih =>
      rw [digitIssues, List.map_cons]
      cases digit v with
      | error problem =>
          simp only [reduceCtorEq, false_iff]
          intro ⟨ds, hds⟩
          cases ds <;> simp at hds
      | ok d =>
          rw [ih]
          constructor
          · intro ⟨ds, hds⟩
            exact ⟨d :: ds, by rw [hds, List.map_cons]⟩
          · intro ⟨ds, hds⟩
            cases ds with
            | nil => simp at hds
            | cons e ds => exact ⟨ds, (List.cons.inj hds).2⟩

theorem digitValues_eq (h : items.map digit = ds.map .ok) : digitValues items = ds := by
  have hvalues : digitValues items = (items.map digit).filterMap Except.toOption := by
    rw [digitValues, List.filterMap_map]
    rfl
  rw [hvalues, h, List.filterMap_map]
  exact List.filterMap_some

/-- Items are digits just if they are taken for integers, and these are in range. -/
theorem map_digit_eq_iff :
    items.map digit = ds.map .ok ↔
      items.map integerOf = ds.map .ok ∧ ∀ d ∈ ds, 0 ≤ d ∧ d ≤ Base10000.maxDigit := by
  induction items generalizing ds with
  | nil => cases ds <;> simp
  | cons v items ih =>
      cases ds with
      | nil => simp
      | cons d ds =>
          rw [List.map_cons, List.map_cons, List.map_cons, List.cons.injEq, List.cons.injEq, ih,
            List.forall_mem_cons, digit, boundedInteger_eq_ok_iff]
          exact ⟨fun ⟨⟨hv, hd⟩, hitems, hds⟩ => ⟨⟨hv, hitems⟩, hd, hds⟩,
            fun ⟨⟨hv, hitems⟩, hd, hds⟩ => ⟨⟨hv, hd⟩, hitems, hds⟩⟩

theorem digitsField_of_list (h : Json.field? "digits" fields = some (.list items)) :
    digitsField source fields =
      match digitIssues 0 items with
      | [] => .ok (digitValues items)
      | issues => .error (issues.map (Issue.under (.field "digits"))) := by
  cases hissues : digitIssues 0 items with
  | nil => simp [digitsField, h, hissues]
  | cons issue issues => simp [digitsField, h, hissues]

theorem digitsField_of_digits (h : Json.field? "digits" fields = some (.list items))
    (hds : items.map digit = ds.map .ok) : digitsField source fields = .ok ds := by
  rw [digitsField_of_list h, digitIssues_eq_nil_iff.2 ⟨ds, hds⟩, digitValues_eq hds]

theorem issuesOf_digitsField (h : Json.field? "digits" fields = some (.list items)) :
    issuesOf (digitsField source fields) =
      (digitIssues 0 items).map (Issue.under (.field "digits")) := by
  rw [digitsField_of_list h]
  cases digitIssues 0 items with
  | nil => rfl
  | cons issue issues => rfl

/-- What is no list has an issue of its own. -/
theorem digitsField_cases (source : Source) (fields : List (String × Json)) :
    (∃ items, Json.field? "digits" fields = some (.list items)) ∨
      ∃ issue, digitsField source fields = .error [issue] := by
  unfold digitsField
  split
  · exact Or.inr ⟨_, rfl⟩
  · exact Or.inl ⟨_, ‹_›⟩
  · exact Or.inr ⟨_, rfl⟩

/-- A field without an issue holds digits. -/
theorem exists_digitsField (h : issuesOf (digitsField source fields) = []) :
    ∃ items ds, Json.field? "digits" fields = some (.list items) ∧
      items.map digit = ds.map .ok ∧ digitsField source fields = .ok ds := by
  rcases digitsField_cases source fields with ⟨items, hitems⟩ | ⟨issue, hissue⟩
  · rw [issuesOf_digitsField hitems, List.map_eq_nil_iff] at h
    obtain ⟨ds, hds⟩ := digitIssues_eq_nil_iff.1 h
    exact ⟨items, ds, hitems, hds, digitsField_of_digits hitems hds⟩
  · simp [hissue, issuesOf] at h

/-! ### Numbers -/

/-- All issues of the fields of a number. -/
def numberIssues (source : Source) (fields : List (String × Json)) : List Issue :=
  issuesOf (integerField Numeric.minWeight Numeric.maxWeight "weight" fields) ++
    issuesOf (integerField 0 Numeric.maxScale "scale" fields) ++
    issuesOf (digitsField source fields) ++
    unknownFields ["sign", "weight", "scale", "digits"] fields

theorem unknownFields_eq_nil_iff {known : List String} :
    unknownFields known fields = [] ↔ ∀ name ∈ fields.map Prod.fst, name ∈ known := by
  simp [unknownFields]

/-- Where there are issues, the answer is all of them. -/
theorem checkNumber_of_issues (sign : Sign) (h : numberIssues source fields ≠ []) :
    checkNumber source sign fields = .error (numberIssues source fields) := by
  unfold checkNumber
  simp only
  split
  -- Only where all parts are there does the check succeed, and then there is no issue.
  · rename_i hweight hscale hdigits hunknown
    simp [numberIssues, hweight, hscale, hdigits, hunknown, issuesOf] at h
  · rfl

/-- **A number without issues** is spelled by its fields. -/
theorem checkNumber_of_numberIssues_nil (hsign : Json.field? "sign" fields =
    some (.string (signText sign))) (h : numberIssues source fields = []) :
    ∃ w c ds, SpellsNumber fields sign w c ds ∧
      checkNumber source sign fields = .ok (number sign w c ds) := by
  simp only [numberIssues, List.append_eq_nil_iff] at h
  obtain ⟨⟨⟨hweight, hscale⟩, hdigits⟩, hunknown⟩ := h
  obtain ⟨w, hw⟩ := exists_integerField hweight
  obtain ⟨c, hc⟩ := exists_integerField hscale
  obtain ⟨items, ds, hitems, hds, hdigits⟩ := exists_digitsField hdigits
  obtain ⟨v, hv, hvw, hwbounds⟩ := integerField_eq_ok_iff.1 hw
  obtain ⟨u, hu, huc, hcbounds⟩ := integerField_eq_ok_iff.1 hc
  obtain ⟨hds, hdbounds⟩ := map_digit_eq_iff.1 hds
  refine ⟨w, c, ds, ?_, ?_⟩
  · exact
      { sign := hsign
        weight := ⟨v, hv, hvw⟩
        weight_bounds := hwbounds
        scale := ⟨u, hu, huc⟩
        scale_bounds := hcbounds
        digits := ⟨items, hitems, hds⟩
        digits_bounds := hdbounds
        names := unknownFields_eq_nil_iff.1 hunknown }
  · simp [checkNumber, hw, hc, hdigits, hunknown]

theorem SpellsNumber.checkNumber_eq {w c : Int} (h : SpellsNumber fields sign w c ds) :
    checkNumber source sign fields = .ok (number sign w c ds) := by
  obtain ⟨v, hv, hvw⟩ := h.weight
  obtain ⟨u, hu, huc⟩ := h.scale
  obtain ⟨items, hitems, hds⟩ := h.digits
  have hw : integerField Numeric.minWeight Numeric.maxWeight "weight" fields = .ok w :=
    integerField_eq_ok_iff.2 ⟨v, hv, hvw, h.weight_bounds⟩
  have hc : integerField 0 Numeric.maxScale "scale" fields = .ok c :=
    integerField_eq_ok_iff.2 ⟨u, hu, huc, h.scale_bounds⟩
  have hdigits : digitsField source fields = .ok ds :=
    digitsField_of_digits hitems (map_digit_eq_iff.2 ⟨hds, h.digits_bounds⟩)
  have hunknown := unknownFields_eq_nil_iff.2 h.names
  simp [checkNumber, hw, hc, hdigits, hunknown]

/-! ### Variants -/

theorem checkFields_of_sign (source : Source)
    (h : Json.field? "sign" fields = some (.string (signText sign))) :
    checkFields source fields = within (signText sign) (checkNumber source sign fields) := by
  rw [checkFields, h]
  cases sign <;> rfl

theorem checkFields_of_nan (source : Source)
    (h : Json.field? "sign" fields = some (.string nanText)) :
    checkFields source fields = within nanText (checkNan fields) := by
  rw [checkFields, h]
  rfl

/-- The field `sign` tells the variant, or it has an issue of its own. -/
theorem checkFields_cases (source : Source) (fields : List (String × Json)) :
    (∃ sign, Json.field? "sign" fields = some (.string (signText sign))) ∨
      Json.field? "sign" fields = some (.string nanText) ∨
        ∃ issue, checkFields source fields = .error [issue] := by
  unfold checkFields
  split
  · exact Or.inr (Or.inr ⟨_, rfl⟩)
  · rename_i hsign
    split
    · exact Or.inl ⟨.positive, hsign⟩
    · exact Or.inl ⟨.negative, hsign⟩
    · exact Or.inr (Or.inl hsign)
    · exact Or.inr (Or.inr ⟨_, rfl⟩)

theorem IsSpelledBy.checkFields_eq (source : Source) (h : d.IsSpelledBy fields) :
    checkFields source fields = .ok d := by
  cases d with
  | number sign w c ds =>
      have hnumber : SpellsNumber fields sign w c ds := h
      rw [checkFields_of_sign source hnumber.sign, hnumber.checkNumber_eq]
      rfl
  | nan =>
      have hnan : SpellsNan fields := h
      have hunknown : unknownFields ["sign"] fields = [] :=
        unknownFields_eq_nil_iff.2 fun name hname => List.mem_singleton.2 (hnan.names name hname)
      rw [checkFields_of_nan source hnan.sign, checkNan, hunknown]
      rfl

/-- The answer to the fields of an object: the document that they spell, or issues. -/
theorem checkFields_answer (source : Source) (fields : List (String × Json)) :
    (∃ d : Document, d.IsSpelledBy fields ∧ checkFields source fields = .ok d) ∨
      ∃ issues, issues ≠ [] ∧ checkFields source fields = .error issues := by
  rcases checkFields_cases source fields with ⟨sign, hsign⟩ | hsign | ⟨issue, hissue⟩
  · rw [checkFields_of_sign source hsign]
    by_cases hissues : numberIssues source fields = []
    · obtain ⟨w, c, ds, hspells, hcheck⟩ := checkNumber_of_numberIssues_nil hsign hissues
      exact Or.inl ⟨number sign w c ds, hspells, by rw [hcheck]; rfl⟩
    · rw [checkNumber_of_issues sign hissues]
      exact Or.inr ⟨_, by simpa using hissues, rfl⟩
  · rw [checkFields_of_nan source hsign, checkNan]
    cases hunknown : unknownFields ["sign"] fields with
    | nil =>
        have hnames := unknownFields_eq_nil_iff.1 hunknown
        exact Or.inl ⟨nan, ⟨hsign, fun name hname => List.mem_singleton.1 (hnames name hname)⟩, rfl⟩
    | cons issue issues => exact Or.inr ⟨_, by simp, rfl⟩
  · exact Or.inr ⟨[issue], by simp, hissue⟩

/-! ### Names that stand twice -/

theorem integerOf_distinct (v : Json) : integerOf v.distinct = integerOf v := by
  cases v <;> rfl

theorem map_integerOf_distinct (items : List Json) :
    (items.map Json.distinct).map integerOf = items.map integerOf := by
  rw [List.map_map]
  exact List.map_congr_left fun v _ => integerOf_distinct v

theorem field?_distinct_eq_string (name s : String) (fields : List (String × Json)) :
    Json.field? name (Json.distinctFields (Json.distinctValues fields)) = some (.string s) ↔
      Json.field? name fields = some (.string s) := by
  rw [Json.field?_distinct]
  cases Json.field? name fields with
  | none => simp
  | some v => cases v <;> simp [Json.distinct]

theorem exists_field?_distinct_integer (name : String) (fields : List (String × Json)) (n : Int) :
    (∃ v, Json.field? name (Json.distinctFields (Json.distinctValues fields)) = some v ∧
        integerOf v = .ok n) ↔
      ∃ v, Json.field? name fields = some v ∧ integerOf v = .ok n := by
  rw [Json.field?_distinct]
  cases Json.field? name fields with
  | none => simp
  | some v => simp [integerOf_distinct]

theorem exists_field?_distinct_list (name : String) (fields : List (String × Json))
    (ds : List Int) :
    (∃ items, Json.field? name (Json.distinctFields (Json.distinctValues fields)) =
        some (.list items) ∧ items.map integerOf = ds.map .ok) ↔
      ∃ items, Json.field? name fields = some (.list items) ∧
        items.map integerOf = ds.map .ok := by
  rw [Json.field?_distinct]
  cases Json.field? name fields with
  | none => simp
  | some v =>
      cases v with
      | list items =>
          simp only [Option.map_some, Json.distinct, Json.distinctItems_eq_map, Option.some.injEq,
            Json.list.injEq, exists_eq_left', map_integerOf_distinct]
      | _ => simp [Json.distinct]

/-- **What is spelled does not change when each name is kept once.** -/
theorem isSpelledBy_distinct (d : Document) (fields : List (String × Json)) :
    d.IsSpelledBy (Json.distinctFields (Json.distinctValues fields)) ↔ d.IsSpelledBy fields := by
  -- Keeping each name once drops no name, so that none of them is unknown before or after.
  have hnames : ∀ known : String → Prop,
      (∀ name ∈ (Json.distinctFields (Json.distinctValues fields)).map Prod.fst, known name) ↔
        ∀ name ∈ fields.map Prod.fst, known name := by
    intro known
    exact forall_congr' fun name => imp_congr_left (Json.mem_names_distinct name fields)
  cases d with
  | number sign w c ds =>
      have hsign := field?_distinct_eq_string "sign" (signText sign) fields
      have hweight := exists_field?_distinct_integer "weight" fields w
      have hscale := exists_field?_distinct_integer "scale" fields c
      have hdigits := exists_field?_distinct_list "digits" fields ds
      constructor
      · intro h
        exact ⟨hsign.1 h.sign, hweight.1 h.weight, h.weight_bounds, hscale.1 h.scale,
          h.scale_bounds, hdigits.1 h.digits, h.digits_bounds, (hnames _).1 h.names⟩
      · intro h
        exact ⟨hsign.2 h.sign, hweight.2 h.weight, h.weight_bounds, hscale.2 h.scale,
          h.scale_bounds, hdigits.2 h.digits, h.digits_bounds, (hnames _).2 h.names⟩
  | nan =>
      have hsign := field?_distinct_eq_string "sign" nanText fields
      constructor
      · intro h
        exact ⟨hsign.1 h.sign, (hnames _).1 h.names⟩
      · intro h
        exact ⟨hsign.2 h.sign, (hnames _).2 h.names⟩

/-! ### Checks of a value -/

theorem IsSpelledBy.check_eq (source : Source) (h : d.IsSpelledBy fields) :
    check source (Json.object fields).distinct = .ok d :=
  IsSpelledBy.checkFields_eq source ((isSpelledBy_distinct d fields).2 h)

/-- **The answer to a value**: the document that it spells, or issues. -/
theorem check_answer (source : Source) (v : Json) :
    (∃ fields d, v = .object fields ∧ d.IsSpelledBy fields ∧ check source v.distinct = .ok d) ∨
      ∃ issues, issues ≠ [] ∧ check source v.distinct = .error issues := by
  cases v with
  | object fields =>
      rcases checkFields_answer source (Json.distinctFields (Json.distinctValues fields)) with
        ⟨d, hd, hcheck⟩ | hissues
      · exact Or.inl ⟨fields, d, rfl, (isSpelledBy_distinct d fields).1 hd, hcheck⟩
      · exact Or.inr hissues
  | _ => exact Or.inr ⟨_, by simp, rfl⟩

theorem check_eq_ok_iff :
    check source v.distinct = .ok d ↔ ∃ fields, v = .object fields ∧ d.IsSpelledBy fields := by
  constructor
  · intro h
    rcases check_answer source v with ⟨fields, e, hv, he, hcheck⟩ | ⟨issues, -, hcheck⟩
    · rw [hcheck] at h
      exact ⟨fields, hv, Except.ok.inj h ▸ he⟩
    · simp [hcheck] at h
  · rintro ⟨fields, rfl, hd⟩
    exact hd.check_eq source

end Document

end NumericWire
