import PocketCalc.Proofs.NumberFormat.DecimalMark
import PocketCalc.Proofs.Operation.Lookup
import PocketCalc.Proofs.Text.Quoting

/-!
# Which configurations are sound

A configuration has to meet a list of demands, in a fixed order: four on the number format, and two
on each operation that is left out.  Checking it finds the fault of the first demand that is not met
or, if all of them are met, nothing.  The message of a fault gives the setting and the reason of the
demand, and no two faults have the same message.

The table of a configuration then has the standard operations that are not left out, and no others.
Every one that is left out is logged when it goes, which is at its first mention.
-/

namespace PocketCalc

/-! ## Demands in their order -/

/-- A condition on a setting, the fault that there is when it does not hold, and the reason that is
given then. -/
structure Demand where
  setting : String
  reason : String
  fault : ConfigFault
  holds : Prop

/-- What is found when demands are checked one after another, up to the first that is not met. -/
inductive Finds : List Demand → (found? : Option ConfigFault) → Prop where
  | nothing : Finds [] none
  | unmet {demand : Demand} (fails : ¬demand.holds) (others : List Demand) :
      Finds (demand :: others) (some demand.fault)
  | met {demand : Demand} {others : List Demand} {found? : Option ConfigFault}
      (holds : demand.holds) (rest : Finds others found?) : Finds (demand :: others) found?

namespace Finds

variable {demands others : List Demand} {found? alsoFound? : Option ConfigFault}

/-- One check, if it refuses just what the demand does not allow. -/
theorem check
    {demand : Demand} {refuses : Prop} [Decidable refuses] (sameAs : refuses ↔ ¬demand.holds)
    (rest : Finds others found?) :
    Finds (demand :: others) (if refuses then some demand.fault else found?) := by
  split
  · next refused =>
      exact .unmet (sameAs.mp refused) others
  · next accepted =>
      exact .met (not_not.mp (mt sameAs.mpr accepted)) rest

theorem append (finds : Finds demands found?) (alsoFinds : Finds others alsoFound?) :
    Finds (demands ++ others) (found?.or alsoFound?) := by
  induction finds with
  | nothing =>
      exact alsoFinds
  | unmet fails rest =>
      exact .unmet fails (rest ++ others)
  | met holds _ inductionHypothesis =>
      exact .met holds inductionHypothesis

theorem eq_none_iff (finds : Finds demands found?) :
    found? = none ↔ ∀ demand ∈ demands, demand.holds := by
  induction finds with
  | nothing =>
      simp
  | unmet fails others =>
      simp [fails]
  | met holds _ inductionHypothesis =>
      simp [holds, inductionHypothesis]

/-- What is found is the fault of the first demand that is not met. -/
theorem eq_some_iff (finds : Finds demands found?) (fault : ConfigFault) :
    found? = some fault ↔
      ∃ before demand after, demands = before ++ demand :: after ∧
        (∀ earlier ∈ before, earlier.holds) ∧ ¬demand.holds ∧ demand.fault = fault := by
  induction finds with
  | nothing =>
      simp
  | unmet fails others =>
      constructor
      · intro found
        exact ⟨[], _, others, rfl, fun _ member => absurd member List.not_mem_nil, fails,
          Option.some.inj found⟩
      · rintro ⟨before, demand, after, split, earlier, _, named⟩
        cases before with
        | nil =>
            rw [(List.cons_eq_cons.mp split).1, named]
        | cons first before =>
            rw [(List.cons_eq_cons.mp split).1] at fails
            exact absurd (earlier first List.mem_cons_self) fails
  | met holds _ inductionHypothesis =>
      rw [inductionHypothesis]
      constructor
      · rintro ⟨before, demand, after, rfl, earlier, unmet⟩
        exact ⟨_ :: before, demand, after, rfl,
          List.forall_mem_cons.mpr ⟨holds, earlier⟩, unmet⟩
      · rintro ⟨before, demand, after, split, earlier, fails, named⟩
        cases before with
        | nil =>
            rw [(List.cons_eq_cons.mp split).1] at holds
            exact absurd holds fails
        | cons first before =>
            exact ⟨before, demand, after, (List.cons_eq_cons.mp split).2,
              (List.forall_mem_cons.mp earlier).2, fails, named⟩

end Finds

/-! ## What a fault tells -/

namespace ConfigFault

variable {fault other : ConfigFault}

theorem reason_tooManyDecimals (fractionMax : Nat) :
    (tooManyDecimals fractionMax).reason = toString fractionMax ++ " > 15" := by
  rw [reason, String.append_assoc]
  rfl

theorem reason_unknownOperation (symbol : String) :
    (unknownOperation symbol).reason =
      Text.quote symbol ++
        " inconnu (connus: + = Ran cos cos⁻¹ e ln sin sin⁻¹ tan tan⁻¹ x² xʸ x⁻¹ ± × ÷ π − √)" := by
  rw [reason, OperationTable.symbols_standard, String.append_assoc, String.append_assoc]
  rfl

theorem reason_equalsDisabled :
    equalsDisabled.reason = Text.quote "=" ++ " ne peut pas être désactivé" := by
  decide +kernel

theorem backtick_not_mem_field (fault : ConfigFault) : '\x60' ∉ fault.field.toList := by
  cases fault with
  | tooManyDecimals fractionMax =>
      simp [field]
  | separatorHasDigitOrSign separator =>
      simp [field]
  | separatorHasMark separator locale =>
      simp [field]
  | blankErrorToken =>
      simp [field]
  | equalsDisabled =>
      simp [field]
  | unknownOperation symbol =>
      simp [field]

theorem message_eq (fault : ConfigFault) :
    fault.message = "valeur invalide pour `" ++ fault.field ++ "`: " ++ fault.reason :=
  rfl

/-- The quotes around the setting end it, so that the reason is what follows them. -/
theorem message_eq_iff :
    fault.message = other.message ↔ fault.field = other.field ∧ fault.reason = other.reason := by
  constructor
  · intro same
    simp only [message_eq, String.append_assoc, String.append_right_inj] at same
    have characters := congrArg String.toList same
    simp only [String.toList_append, String.reduceToList, List.cons_append,
      List.nil_append] at characters
    obtain ⟨sameField, sameRest⟩ := Text.append_cons_inj (backtick_not_mem_field fault)
      (backtick_not_mem_field other) characters
    have sameReason := (List.cons_eq_cons.mp (List.cons_eq_cons.mp sameRest).2).2
    exact ⟨String.toList_inj.mp sameField, String.toList_inj.mp sameReason⟩
  · rintro ⟨sameField, sameReason⟩
    rw [message_eq, message_eq, sameField, sameReason]

theorem reason_digitOrSign_ne_mark (separator other locale : String) :
    (separatorHasDigitOrSign separator).reason ≠ (separatorHasMark other locale).reason := by
  intro same
  rw [reason, reason, String.append_assoc] at same
  have characters := congrArg String.toList (Text.quote_append_inj same).2
  simp only [String.toList_append, String.reduceToList, List.cons_append] at characters
  exact absurd (List.cons_eq_cons.mp (List.cons_eq_cons.mp characters).2).1 (by decide)

theorem reason_equals_ne_unknown (symbol : String) :
    equalsDisabled.reason ≠ (unknownOperation symbol).reason := by
  intro same
  rw [reason_equalsDisabled, reason_unknownOperation] at same
  have sameRest := (Text.quote_append_inj same).2
  simp at sameRest

/-- A message belongs to one fault only. -/
theorem message_inj (same : fault.message = other.message) : fault = other := by
  obtain ⟨sameField, sameReason⟩ := message_eq_iff.mp same
  -- Two kinds of faults that are about one setting are told apart by what follows the quoted text.
  cases fault with
  | tooManyDecimals fractionMax =>
      cases other with
      | tooManyDecimals otherMax =>
          rw [reason_tooManyDecimals, reason_tooManyDecimals, String.append_left_inj,
            Nat.toString_eq_ofList_toDigits, Nat.toString_eq_ofList_toDigits,
            String.ofList_inj] at sameReason
          rw [Text.toDigits_inj (by decide) (by decide) sameReason]
      | _ =>
          simp [field] at sameField
  | separatorHasDigitOrSign separator =>
      cases other with
      | separatorHasDigitOrSign otherSeparator =>
          rw [(Text.quote_append_inj sameReason).1]
      | separatorHasMark otherSeparator locale =>
          exact absurd sameReason (reason_digitOrSign_ne_mark separator otherSeparator locale)
      | _ =>
          simp [field] at sameField
  | separatorHasMark separator locale =>
      cases other with
      | separatorHasDigitOrSign otherSeparator =>
          exact absurd sameReason.symm (reason_digitOrSign_ne_mark otherSeparator separator locale)
      | separatorHasMark otherSeparator otherLocale =>
          rw [reason, reason, String.append_assoc, String.append_assoc] at sameReason
          obtain ⟨sameSeparator, sameRest⟩ := Text.quote_append_inj sameReason
          rw [sameSeparator, Text.quote_inj ((String.append_right_inj _).mp sameRest)]
      | _ =>
          simp [field] at sameField
  | blankErrorToken =>
      cases other with
      | blankErrorToken =>
          rfl
      | _ =>
          simp [field] at sameField
  | equalsDisabled =>
      cases other with
      | equalsDisabled =>
          rfl
      | unknownOperation symbol =>
          exact absurd sameReason (reason_equals_ne_unknown symbol)
      | _ =>
          simp [field] at sameField
  | unknownOperation symbol =>
      cases other with
      | equalsDisabled =>
          exact absurd sameReason.symm (reason_equals_ne_unknown symbol)
      | unknownOperation otherSymbol =>
          rw [reason_unknownOperation, reason_unknownOperation] at sameReason
          rw [(Text.quote_append_inj sameReason).1]
      | _ =>
          simp [field] at sameField

end ConfigFault

/-! ## The demands on a configuration -/

/-- The code points with the Unicode property `White_Space`. -/
def whiteSpace : List Nat :=
  [0x9, 0xa, 0xb, 0xc, 0xd, 0x20, 0x85, 0xa0, 0x1680, 0x2000, 0x2001, 0x2002, 0x2003, 0x2004,
    0x2005, 0x2006, 0x2007, 0x2008, 0x2009, 0x200a, 0x2028, 0x2029, 0x202f, 0x205f, 0x3000]

theorem isBlank_iff (character : Char) :
    Text.isBlank character = true ↔ character.toNat ∈ whiteSpace := by
  simp [Text.isBlank, Text.blankRanges, whiteSpace]
  omega

namespace NumberFormat

def demands (format : NumberFormat) : List Demand :=
  [{ setting := "format.fraction_max"
     reason := toString format.fractionMax ++ " > 15"
     fault := .tooManyDecimals format.fractionMax
     holds := format.fractionMax ≤ 15 },
   { setting := "format.separateur_milliers"
     reason := Text.quote format.groupSeparator ++ " contient un chiffre ou un signe"
     fault := .separatorHasDigitOrSign format.groupSeparator
     holds := ∀ character ∈ format.groupSeparator.toList,
       character.isDigit = false ∧ character ≠ '-' },
   { setting := "format.separateur_milliers"
     reason := Text.quote format.groupSeparator ++
       " se confond avec le séparateur décimal de la locale " ++ Text.quote format.locale
     fault := .separatorHasMark format.groupSeparator format.locale
     holds := (if WritesComma format.locale then ',' else '.') ∉ format.groupSeparator.toList },
   { setting := "format.jeton_erreur"
     reason := "vide"
     fault := .blankErrorToken
     holds := ∃ character ∈ format.errorToken.toList, character.toNat ∉ whiteSpace }]

theorem finds_fault? (format : NumberFormat) : Finds format.demands format.fault? := by
  have tooMany : fractionLimit < format.fractionMax ↔ ¬format.fractionMax ≤ 15 :=
    Nat.not_le.symm
  have digitOrSign :
      (format.groupSeparator.toList.any fun character =>
          character.isDigit || character = '-') = true ↔
        ¬∀ character ∈ format.groupSeparator.toList,
          character.isDigit = false ∧ character ≠ '-' := by
    simp only [List.any_eq_true, Bool.or_eq_true, decide_eq_true_eq, not_forall, exists_prop,
      not_and_or, Bool.not_eq_false, not_not]
  have mark :
      format.decimalMark ∈ format.groupSeparator.toList ↔
        ¬(if WritesComma format.locale then ',' else '.') ∉ format.groupSeparator.toList := by
    rw [decimalMark_eq, not_not]
  have blank :
      Text.isBlankText format.errorToken.toList = true ↔
        ¬∃ character ∈ format.errorToken.toList, character.toNat ∉ whiteSpace := by
    simp [Text.isBlankText, isBlank_iff]
  exact .check tooMany (.check digitOrSign (.check mark (.check blank .nothing)))

end NumberFormat

namespace Config

def disabledDemands (symbol : String) : List Demand :=
  [{ setting := "operations.desactivees"
     reason := "\"=\" ne peut pas être désactivé"
     fault := .equalsDisabled
     holds := symbol ≠ "=" },
   { setting := "operations.desactivees"
     reason := Text.quote symbol ++
       " inconnu (connus: + = Ran cos cos⁻¹ e ln sin sin⁻¹ tan tan⁻¹ x² xʸ x⁻¹ ± × ÷ π − √)"
     fault := .unknownOperation symbol
     holds := OperationTable.standard.contains symbol = true }]

/-- All demands on a configuration, in the order in which they are checked. -/
def demands (config : Config) : List Demand :=
  config.format.demands ++ config.disabled.flatMap disabledDemands

theorem finds_disabledFault? (symbol : String) :
    Finds (disabledDemands symbol) (disabledFault? symbol) := by
  rw [disabledFault?, ← ite_not (OperationTable.standard.contains symbol = true)]
  exact .check not_not.symm (.check Iff.rfl .nothing)

theorem finds_findSome? (symbols : List String) :
    Finds (symbols.flatMap disabledDemands) (symbols.findSome? disabledFault?) := by
  induction symbols with
  | nil =>
      exact .nothing
  | cons symbol symbols inductionHypothesis =>
      rw [List.flatMap_cons, ← List.singleton_append, List.findSome?_append,
        List.findSome?_singleton]
      exact (finds_disabledFault? symbol).append inductionHypothesis

theorem finds_fault? (config : Config) : Finds config.demands config.fault? :=
  config.format.finds_fault?.append (finds_findSome? config.disabled)

theorem isSound_iff (config : Config) :
    config.IsSound ↔
      config.format.fractionMax ≤ 15 ∧
        (∀ character ∈ config.format.groupSeparator.toList,
          character.isDigit = false ∧ character ≠ '-' ∧
            character ≠ if NumberFormat.WritesComma config.format.locale then ',' else '.') ∧
        (∃ character ∈ config.format.errorToken.toList, character.toNat ∉ whiteSpace) ∧
        ∀ symbol ∈ config.disabled,
          OperationTable.standard.contains symbol = true ∧ symbol ≠ "=" := by
  have separator (mark : Char) :
      (∀ character ∈ config.format.groupSeparator.toList,
          character.isDigit = false ∧ character ≠ '-' ∧ character ≠ mark) ↔
        (∀ character ∈ config.format.groupSeparator.toList,
            character.isDigit = false ∧ character ≠ '-') ∧
          mark ∉ config.format.groupSeparator.toList := by
    constructor
    · intro allowed
      exact ⟨fun character member => ⟨(allowed character member).1, (allowed character member).2.1⟩,
        fun mark => (allowed _ mark).2.2 rfl⟩
    · rintro ⟨plain, noMark⟩ character member
      refine ⟨(plain character member).1, (plain character member).2, ?_⟩
      rintro rfl
      exact noMark member
  have disabled :
      (∀ demand ∈ config.disabled.flatMap disabledDemands, demand.holds) ↔
        ∀ symbol ∈ config.disabled,
          OperationTable.standard.contains symbol = true ∧ symbol ≠ "=" := by
    simp only [List.forall_mem_flatMap, disabledDemands, List.forall_mem_cons, List.not_mem_nil,
      false_implies, implies_true, and_true]
    exact forall₂_congr fun _ _ => and_comm
  rw [IsSound, config.finds_fault?.eq_none_iff, demands, List.forall_mem_append, disabled,
    separator]
  simp only [NumberFormat.demands, List.forall_mem_cons, List.not_mem_nil, false_implies,
    implies_true, and_true, and_assoc]

/-- A fault is about the setting that the demand is made on, and gives its reason. -/
theorem fault_of_mem_demands
    {config : Config} {demand : Demand} (member : demand ∈ config.demands) :
    demand.fault.field = demand.setting ∧ demand.fault.reason = demand.reason := by
  rcases List.mem_append.mp member with ofFormat | ofDisabled
  · simp only [NumberFormat.demands, List.mem_cons, List.not_mem_nil, or_false] at ofFormat
    rcases ofFormat with rfl | rfl | rfl | rfl
    · exact ⟨rfl, ConfigFault.reason_tooManyDecimals config.format.fractionMax⟩
    · exact ⟨rfl, rfl⟩
    · exact ⟨rfl, rfl⟩
    · exact ⟨rfl, rfl⟩
  · obtain ⟨symbol, _, ofSymbol⟩ := List.mem_flatMap.mp ofDisabled
    simp only [disabledDemands, List.mem_cons, List.not_mem_nil, or_false] at ofSymbol
    rcases ofSymbol with rfl | rfl
    · exact ⟨rfl, rfl⟩
    · exact ⟨rfl, ConfigFault.reason_unknownOperation symbol⟩

theorem checked_eq_ok_iff (config : Config) :
    config.checked = .ok config ↔ config.fault? = none := by
  rw [checked]
  cases config.fault? with
  | none =>
      simp
  | some fault =>
      simp

theorem checked_eq_error_iff (config : Config) (fault : ConfigFault) :
    config.checked = .error fault ↔ config.fault? = some fault := by
  rw [checked]
  cases config.fault? with
  | none =>
      simp
  | some found =>
      simp

/-! ## What is taken out of the table -/

/-- A symbol goes at its first mention, if it is there at all. -/
theorem removed_eq (table : OperationTable) (symbols : List String) :
    removed table symbols = (symbols.filter table.contains).eraseDups := by
  induction symbols generalizing table with
  | nil =>
      rfl
  | cons symbol symbols inductionHypothesis =>
      have left (tested : String) :
          (table.erase symbol).contains tested = (!tested == symbol && table.contains tested) := by
        rw [OperationTable.contains, OperationTable.get?_erase, OperationTable.contains]
        by_cases same : tested = symbol
        · simp [same]
        · simp [same]
      rw [removed, inductionHypothesis, funext left, ← List.filter_filter]
      cases present : table.contains symbol with
      | true =>
          rw [List.filter_cons_of_pos present, List.eraseDups_cons]
          rfl
      | false =>
          have gone (tested : String) (member : tested ∈ symbols.filter table.contains) :
              (!tested == symbol) = true := by
            have known := (List.mem_filter.mp member).2
            rw [Bool.not_eq_true', beq_eq_false_iff_ne]
            rintro rfl
            rw [present] at known
            exact absurd known (by decide)
          rw [List.filter_cons_of_neg (by rw [present]; decide), List.filter_eq_self.mpr gone]
          rfl

/-- Each symbol that is left out is logged once, in the order of their first mentions. -/
theorem IsSound.tableLog_eq {config : Config} (sound : config.IsSound) :
    config.tableLog =
      config.disabled.eraseDups.map fun symbol =>
        ⟨.debug, "opération désactivée: " ++ symbol⟩ := by
  have known (symbol : String) (member : symbol ∈ config.disabled) :
      OperationTable.standard.contains symbol = true :=
    (config.isSound_iff.mp sound).2.2.2 symbol member |>.1
  rw [tableLog, removed_eq, List.filter_eq_self.mpr known]

/-- Checking accepts exactly the sound configurations, and the table is exactly what was asked for.
A configuration is taken if and only if at most fifteen decimals are kept, the group separator
contains no digit, no minus sign and not the decimal mark of the locale, some character of the error
token is no white space, and every operation to leave out is a standard one other than `=`.  Any
other one is refused with the fault of the first demand that it does not meet.  The message of this
fault gives the setting and the reason of the demand, and no other fault has the same message.  The
table of one that is taken has the standard operations that are not left out and nothing else, `=`
among them, and each operation that is left out is logged once, in the order of their first
mentions. -/
theorem checked_decided_by_demands (config : Config) :
    (config.checked = .ok config ↔
      config.format.fractionMax ≤ 15 ∧
        (∀ character ∈ config.format.groupSeparator.toList,
          character.isDigit = false ∧ character ≠ '-' ∧
            character ≠ if NumberFormat.WritesComma config.format.locale then ',' else '.') ∧
        (∃ character ∈ config.format.errorToken.toList, character.toNat ∉ whiteSpace) ∧
        ∀ symbol ∈ config.disabled,
          OperationTable.standard.contains symbol = true ∧ symbol ≠ "=") ∧
      (∀ fault, config.checked = .error fault ↔
        ∃ before demand after, config.demands = before ++ demand :: after ∧
          (∀ earlier ∈ before, earlier.holds) ∧ ¬demand.holds ∧ demand.fault = fault) ∧
      (∀ demand ∈ config.demands,
        demand.fault.field = demand.setting ∧ demand.fault.reason = demand.reason ∧
          demand.fault.message =
            "valeur invalide pour `" ++ demand.setting ++ "`: " ++ demand.reason) ∧
      (∀ fault other : ConfigFault, fault.message = other.message → fault = other) ∧
      (config.checked = .ok config →
        (∀ symbol,
          config.table.get? symbol =
            if symbol ∈ config.disabled then none else OperationTable.standard.get? symbol) ∧
          config.table.get? "=" = some .equals ∧
          config.tableLog =
            config.disabled.eraseDups.map fun symbol =>
              ⟨.debug, "opération désactivée: " ++ symbol⟩) := by
  have finds := config.finds_fault?
  refine ⟨?_, fun fault => ?_, fun demand member => ?_, fun _ _ => ConfigFault.message_inj,
    fun taken => ?_⟩
  · rw [checked_eq_ok_iff, ← IsSound, isSound_iff]
  · rw [checked_eq_error_iff, finds.eq_some_iff]
  · obtain ⟨field, reason⟩ := fault_of_mem_demands member
    exact ⟨field, reason, by rw [ConfigFault.message_eq, field, reason]⟩
  · have sound : config.IsSound := (checked_eq_ok_iff config).mp taken
    exact ⟨config.get?_table, sound.get?_equals, sound.tableLog_eq⟩

/-- A point may separate groups under a locale with a comma, and a comma may not.  A symbol that is
left out twice is logged once.  An unknown symbol is found before an `=` behind it. -/
theorem checked_decided_by_demands_repeated :
    let config : Config :=
      { format := { groupSeparator := ".", locale := "FR-ca" }, disabled := ["xʸ", "Ran", "xʸ"] }
    let comma : Config := { format := { groupSeparator := ",", locale := "FR-ca" } }
    let refused : Config := { disabled := ["Ran", "sinh", "="] }
    config.checked = .ok config ∧
      config.table.get? "xʸ" = none ∧
      config.table.get? "=" = some .equals ∧
      config.tableLog =
        [⟨.debug, "opération désactivée: xʸ"⟩, ⟨.debug, "opération désactivée: Ran"⟩] ∧
      ¬comma.checked = .ok comma ∧
      refused.checked = .error (.unknownOperation "sinh") ∧
      ∃ before demand after, refused.demands = before ++ demand :: after ∧
        (∀ earlier ∈ before, earlier.holds) ∧ ¬demand.holds ∧
          demand.fault = .unknownOperation "sinh" ∧
          demand.fault.message =
            "valeur invalide pour `operations.desactivees`: \"sinh\" inconnu (connus: + = Ran " ++
              "cos cos⁻¹ e ln sin sin⁻¹ tan tan⁻¹ x² xʸ x⁻¹ ± × ÷ π − √)" := by
  intro config comma refused
  have taken : config.checked = .ok config :=
    (checked_eq_ok_iff config).mpr (by decide)
  have found : refused.checked = .error (.unknownOperation "sinh") :=
    (checked_eq_error_iff refused _).mpr (by decide)
  obtain ⟨_, _, _, _, whenTaken⟩ := checked_decided_by_demands config
  obtain ⟨table, equals, log⟩ := whenTaken taken
  obtain ⟨commaTaken, _⟩ := checked_decided_by_demands comma
  obtain ⟨_, whenRefused, _⟩ := checked_decided_by_demands refused
  obtain ⟨before, demand, after, split, earlier, fails, named⟩ := (whenRefused _).mp found
  refine ⟨taken, ?_, equals, log, ?_, found, before, demand, after, split, earlier, fails, named,
    ?_⟩
  · rw [table, if_pos List.mem_cons_self]
  · rw [commaTaken]
    rintro ⟨_, allowed, _⟩
    have mark : (if NumberFormat.WritesComma "FR-ca" then ',' else '.') = ',' :=
      if_pos (by decide)
    exact (allowed ',' (by decide)).2.2 mark.symm
  · have quoted : Text.quote "sinh" = "\"sinh\"" := by
      decide +kernel
    rw [named, ConfigFault.message_eq, ConfigFault.reason_unknownOperation, quoted]
    decide +kernel

end Config

end PocketCalc
