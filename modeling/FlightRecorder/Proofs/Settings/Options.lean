import Mathlib.Data.List.DropRight
import Mathlib.Logic.Relation
import FlightRecorder.Settings.Options

/-!
# The last option of a key decides

Settings come out of a string of options one option after the other, each of which writes
over what one before it has said. This file proves that the outcome is a matter of the
last option of each key alone, says when there is an outcome, and concludes that the order
of options with different keys is of no importance.

* `FlightRecorder.IsWord`, `FlightRecorder.readWord_eq_ok_iff` – the numbers that options
  may give;
* `FlightRecorder.Settings.valuesOf` – the values that options give for a key, which are
  all that is needed of the options;
* `FlightRecorder.Settings.decided` – the settings by the last of these values;
* `FlightRecorder.Settings.foldlM_apply_eq_ok_iff` – **the options one by one** write
  these settings, by `FlightRecorder.Settings.apply_decided_eq_ok_iff` for one of them;
* `FlightRecorder.Settings.check_decided_eq_ok_iff` – their acceptance;
* `FlightRecorder.Settings.Edit` – changes to the items of a string that leave all known
  keys their values (`FlightRecorder.Settings.Edit.sameValues`);
* `FlightRecorder.Settings.settings_of_options` – **the settings of a string**.

Strings that have the time filled in are left out, since it is not the options alone that
such settings depend on.
-/

namespace FlightRecorder

/-! ### Words -/

/-- **The text of a word** of 64 bits: decimal digits, perhaps after a plus sign. -/
def IsWord (value : String) (n : Nat) : Prop :=
  ∃ digits : List Char, digits ≠ [] ∧ (∀ c ∈ digits, c.isDigit = true) ∧
    (value.toList = digits ∨ value.toList = '+' :: digits) ∧
    Text.digitsValue digits = n ∧ n < wordSize

/-- The number that a text stands for, if it stands for one: what its digits make. -/
def wordOf (value : String) : Nat :=
  Text.digitsValue (value.toList.filter Char.isDigit)

theorem IsWord.wordOf_eq {value : String} {n : Nat} (h : IsWord value n) : wordOf value = n := by
  obtain ⟨digits, -, hdigits, hvalue, rfl, -⟩ := h
  have hfilter : digits.filter Char.isDigit = digits := List.filter_eq_self.mpr hdigits
  rcases hvalue with hvalue | hvalue
  · rw [wordOf, hvalue, hfilter]
  · rw [wordOf, hvalue, List.filter_cons_of_neg (by decide), hfilter]

/-- The characters of a number behind its sign; a sign alone is none. -/
def unsigned : List Char → List Char
  | '+' :: c :: rest => c :: rest
  | cs => cs

theorem readWord_eq (value : String) :
    readWord value =
      if (unsigned value.toList).isEmpty then .error .empty
      else if (unsigned value.toList).all Char.isDigit then
        if Text.digitsValue (unsigned value.toList) < wordSize then
          .ok (Text.digitsValue (unsigned value.toList))
        else .error .tooLarge
      else if Text.digitsValue ((unsigned value.toList).takeWhile Char.isDigit) < wordSize then
        .error .invalidDigit
      else .error .tooLarge := rfl

/-- Digits are left, with a sign in front of them or without. -/
theorem unsigned_eq_iff {cs digits : List Char} (hne : digits ≠ [])
    (hdigits : ∀ c ∈ digits, c.isDigit = true) :
    unsigned cs = digits ↔ cs = digits ∨ cs = '+' :: digits := by
  have hplus : ∀ rest, digits ≠ '+' :: rest := by
    rintro rest rfl
    exact absurd (hdigits '+' List.mem_cons_self) (by decide)
  rw [unsigned.eq_def]
  split
  · rename_i c rest
    constructor
    · rintro rfl
      exact Or.inr rfl
    · rintro (heq | heq)
      · exact absurd heq.symm (hplus _)
      · exact (List.cons.inj heq).2
  · rename_i hcases
    constructor
    · exact Or.inl
    · rintro (rfl | rfl)
      · rfl
      · obtain ⟨c, rest, rfl⟩ := List.exists_cons_of_ne_nil hne
        exact absurd rfl (hcases c rest)

/-- **The reader accepts words**, and nothing else. -/
theorem readWord_eq_ok_iff {value : String} {n : Nat} :
    readWord value = .ok n ↔ IsWord value n := by
  rw [readWord_eq]
  constructor
  · intro hread
    split_ifs at hread with hempty hdigits hlt
    · have hne : unsigned value.toList ≠ [] := fun hnil => hempty (List.isEmpty_iff.mpr hnil)
      have hall := List.all_eq_true.mp hdigits
      obtain rfl := Except.ok.inj hread
      exact ⟨_, hne, hall, (unsigned_eq_iff hne hall).mp rfl, rfl, hlt⟩
  · rintro ⟨digits, hne, hall, hvalue, rfl, hlt⟩
    have hempty : ¬digits.isEmpty = true := fun hempty => hne (List.isEmpty_iff.mp hempty)
    rw [(unsigned_eq_iff hne hall).mpr hvalue, if_neg hempty, if_pos (List.all_eq_true.mpr hall),
      if_pos hlt]

namespace Settings

/-! ### The values of a key -/

variable {opts opts' : List (String × String)} {key value : String} {now : Moment} {s : Settings}

/-- **The values** that options give for a key, in order. -/
def valuesOf (opts : List (String × String)) (key : String) : List String :=
  opts.filterMap fun o => if o.1 = key then some o.2 else none

/-- The last value that options give for a key. -/
def lastValue? (opts : List (String × String)) (key : String) : Option String :=
  (valuesOf opts key).getLast?

/-- The last retention policy that options ask for; values that stand for none do not
count. -/
def lastRetention? (opts : List (String × String)) : Option Retention :=
  ((valuesOf opts "keepobj").filterMap Retention.parse?).getLast?

/-- **The settings that the last options decide.** What no option speaks of is as if there
were no options. -/
def decided (opts : List (String × String)) : Settings :=
  let default : Settings := {}
  { default with
    bufferSize := (lastValue? opts "size").elim default.bufferSize fun value =>
      max (wordOf value) minBufferSize
    evictionUnit := (lastValue? opts "trim").elim default.evictionUnit fun value =>
      max (wordOf value) 1
    globalCapacity := (lastValue? opts "capacity").elim default.globalCapacity fun value =>
      max (wordOf value) 1
    format := (lastValue? opts "json").elim default.format fun value =>
      if saysTrue value then .json else .text
    retention := (lastRetention? opts).getD default.retention
    partialSave := (lastValue? opts "logsave").elim default.partialSave PartialSave.parse
    saveInterval := (lastValue? opts "saveinterval").elim default.saveInterval wordOf
    showBufferSize := (lastValue? opts "showbuffersize").elim default.showBufferSize saysTrue
    compress := (lastValue? opts "compress").elim default.compress saysTrue
    outputDir := lastValue? opts "output"
    traceFile := lastValue? opts "trace" }

/-- The keys whose values are numbers. -/
def wordKeys : List String := ["size", "trim", "capacity", "saveinterval"]

/-- The keys whose values may have the time filled in. -/
def pathKeys : List String := ["output", "trace"]

/-- All keys that mean anything. -/
def knownKeys : List String :=
  wordKeys ++ pathKeys ++ ["json", "keepobj", "logsave", "showbuffersize", "compress"]

/-- **Legible options** give a word wherever a number is asked for. -/
def Legible (opts : List (String × String)) : Prop :=
  ∀ key ∈ wordKeys, ∀ value ∈ valuesOf opts key, ∃ n, IsWord value n

/-- **Timeless options** give paths that no time is filled into. -/
def Timeless (opts : List (String × String)) : Prop :=
  ∀ key ∈ pathKeys, ∀ value ∈ valuesOf opts key, ∀ now, fillTime now value = .ok value

/-- **Options with the same values** for each key that means anything. -/
def SameValues (opts opts' : List (String × String)) : Prop :=
  ∀ key ∈ knownKeys, valuesOf opts key = valuesOf opts' key

theorem valuesOf_snoc (opts : List (String × String)) (key key' value : String) :
    valuesOf (opts ++ [(key, value)]) key' =
      valuesOf opts key' ++ if key = key' then [value] else [] := by
  rw [valuesOf, valuesOf, List.filterMap_append]
  split_ifs with h <;> simp [h]

/-- A new last option is the last one of its key. -/
theorem lastValue?_snoc (opts : List (String × String)) (key key' value : String) :
    lastValue? (opts ++ [(key, value)]) key' =
      if key = key' then some value else lastValue? opts key' := by
  rw [lastValue?, lastValue?, valuesOf_snoc]
  split_ifs <;> simp

theorem lastRetention?_snoc (opts : List (String × String)) (key value : String) :
    lastRetention? (opts ++ [(key, value)]) =
      if key = "keepobj" then (Retention.parse? value).or (lastRetention? opts)
      else lastRetention? opts := by
  rw [lastRetention?, lastRetention?, valuesOf_snoc]
  split_ifs
  · rw [List.filterMap_append, List.getLast?_append]
    cases hvalue : Retention.parse? value <;> simp [hvalue]
  · rw [List.append_nil]

/-- Options with the same values decide the same. -/
theorem SameValues.decided_eq (h : SameValues opts opts') : decided opts = decided opts' := by
  have hlast : ∀ key ∈ knownKeys, lastValue? opts key = lastValue? opts' key := by
    intro key hkey
    rw [lastValue?, lastValue?, h key hkey]
  have hretention : lastRetention? opts = lastRetention? opts' := by
    rw [lastRetention?, lastRetention?, h "keepobj" (by decide)]
  simp only [decided, hretention, hlast "json" (by decide), hlast "logsave" (by decide),
    hlast "showbuffersize" (by decide), hlast "compress" (by decide), hlast "output" (by decide),
    hlast "trace" (by decide), hlast "size" (by decide), hlast "trim" (by decide),
    hlast "capacity" (by decide), hlast "saveinterval" (by decide)]

theorem SameValues.legible (h : SameValues opts opts') (hopts : Legible opts) : Legible opts' := by
  have hsub : ∀ key ∈ wordKeys, key ∈ knownKeys := by decide
  intro key hkey
  rw [← h key (hsub key hkey)]
  exact hopts key hkey

theorem SameValues.timeless (h : SameValues opts opts') (hopts : Timeless opts) :
    Timeless opts' := by
  have hsub : ∀ key ∈ pathKeys, key ∈ knownKeys := by decide
  intro key hkey
  rw [← h key (hsub key hkey)]
  exact hopts key hkey

/-! ### The options one by one -/

/-- A step that reads a number goes on if there is one. -/
theorem number_step {f : Nat → Settings} {t : Settings} (hkey : key ∈ wordKeys)
    (hf : f (wordOf value) = t) :
    (number key value >>= fun n => pure (f n)) = Except.ok s ↔
      (key ∈ wordKeys → ∃ n, IsWord value n) ∧ t = s := by
  rw [imp_iff_right hkey, number]
  cases hread : readWord value with
  | ok n =>
    have hword := readWord_eq_ok_iff.mp hread
    rw [← hf, hword.wordOf_eq, and_iff_right ⟨n, hword⟩]
    exact ⟨Except.ok.inj, congrArg Except.ok⟩
  | error fault =>
    refine iff_of_false nofun ?_
    rintro ⟨⟨n, hn⟩, -⟩
    rw [← readWord_eq_ok_iff, hread] at hn
    cases hn

/-- A step that reads none always goes on. -/
theorem pure_step {u t : Settings} (hkey : key ∉ wordKeys) (hu : u = t) :
    (pure u : Except Failure Settings) = Except.ok s ↔
      (key ∈ wordKeys → ∃ n, IsWord value n) ∧ t = s := by
  rw [and_iff_right fun h => absurd h hkey, hu]
  exact ⟨Except.ok.inj, congrArg Except.ok⟩

/-- **One option** writes over what the last one of its key has decided, unless it asks for
a number and gives none. -/
theorem apply_decided_eq_ok_iff (o : String × String)
    (htime : o.1 ∈ pathKeys → fillTime now o.2 = .ok o.2) :
    apply now (decided opts) o = .ok s ↔
      (o.1 ∈ wordKeys → ∃ n, IsWord o.2 n) ∧ decided (opts ++ [o]) = s := by
  obtain ⟨key, value⟩ := o
  dsimp only at htime ⊢
  simp only [apply]
  -- one case for each key, in the order of the program, and one for all other keys
  split
  case h_1 | h_2 | h_3 | h_7 =>
    refine number_step (by decide) ?_
    simp [decided, lastValue?_snoc, lastRetention?_snoc]
  case h_10 | h_11 =>
    rw [htime (by decide)]
    refine pure_step (by decide) ?_
    simp [decided, lastValue?_snoc, lastRetention?_snoc]
  case h_12 =>
    -- an option whose key means nothing is none of the last ones
    refine pure_step ?_ ?_
    · simp_all [wordKeys]
    · simp_all [decided, lastValue?_snoc, lastRetention?_snoc]
  all_goals
    refine pure_step (by decide) ?_
    simp [decided, lastValue?_snoc, lastRetention?_snoc]

/-- Whatever goes through all options does so one by one. -/
theorem forall_valuesOf_snoc {keys : List String} {P : String → Prop} (o : String × String) :
    (∀ key ∈ keys, ∀ value ∈ valuesOf (opts ++ [o]) key, P value) ↔
      (∀ key ∈ keys, ∀ value ∈ valuesOf opts key, P value) ∧ (o.1 ∈ keys → P o.2) := by
  obtain ⟨key', value'⟩ := o
  simp only [valuesOf_snoc, List.mem_append]
  constructor
  · intro h
    exact ⟨fun key hkey value hvalue => h key hkey value (Or.inl hvalue),
      fun hkey => h key' hkey value' (Or.inr (by rw [if_pos rfl]; exact List.mem_singleton_self _))⟩
  · rintro ⟨hopts, hlast⟩ key hkey value (hvalue | hvalue)
    · exact hopts key hkey value hvalue
    · split_ifs at hvalue with heq
      · rw [List.mem_singleton.mp hvalue]
        exact hlast (heq ▸ hkey)
      · cases hvalue

theorem bind_eq_ok_iff {ε α β : Type} {x : Except ε α} {f : α → Except ε β} {b : β} :
    (x >>= f) = .ok b ↔ ∃ a, x = .ok a ∧ f a = .ok b := by
  cases x with
  | ok a => exact ⟨fun h => ⟨a, rfl, h⟩, fun ⟨_, ha, h⟩ => Except.ok.inj ha ▸ h⟩
  | error e => exact iff_of_false nofun fun ⟨_, ha, _⟩ => nomatch ha

/-- **Options one by one** write the settings that the last of them decide, if they are
legible, and nothing otherwise. By induction from the last of them on, which is the one
that has the last word. -/
theorem foldlM_apply_eq_ok_iff (htime : Timeless opts) :
    opts.foldlM (apply now) {} = .ok s ↔ Legible opts ∧ decided opts = s := by
  induction opts using List.reverseRecOn generalizing s with
  | nil =>
    have hlegible : Legible [] := fun _ _ _ hvalue => nomatch hvalue
    rw [and_iff_right hlegible]
    exact ⟨Except.ok.inj, congrArg Except.ok⟩
  | append_singleton opts o ih =>
    obtain ⟨hopts, hlast⟩ := (forall_valuesOf_snoc o).mp htime
    have hstep : apply now (decided opts) o = .ok s ↔ _ :=
      apply_decided_eq_ok_iff o fun hkey => hlast hkey now
    rw [Legible, forall_valuesOf_snoc, and_assoc, ← hstep, List.foldlM_append, bind_eq_ok_iff]
    simp only [ih hopts, List.foldlM_cons, List.foldlM_nil, bind_pure]
    constructor
    · rintro ⟨_, ⟨hlegible, rfl⟩, happly⟩
      exact ⟨hlegible, happly⟩
    · rintro ⟨hlegible, happly⟩
      exact ⟨_, ⟨hlegible, rfl⟩, happly⟩

/-! ### Acceptance -/

theorem le_elim_max {α : Type} {low default : Nat} (h : low ≤ default) (value? : Option α)
    (f : α → Nat) : low ≤ value?.elim default fun value => max (f value) low := by
  cases value? with
  | none => exact h
  | some value => exact Nat.le_max_right _ low

theorem minBufferSize_le_decided (opts : List (String × String)) :
    minBufferSize ≤ (decided opts).bufferSize :=
  le_elim_max (by decide) _ wordOf

theorem evictionUnit_decided_pos (opts : List (String × String)) :
    0 < (decided opts).evictionUnit :=
  le_elim_max (by decide) _ wordOf

theorem globalCapacity_decided_pos (opts : List (String × String)) :
    0 < (decided opts).globalCapacity :=
  le_elim_max (by decide) _ wordOf

theorem parse_ne_no_iff {word : String} :
    PartialSave.parse word ≠ .no ↔ Text.lowerAscii word ∈ ["partial", "snapshot"] := by
  rw [PartialSave.parse]
  split <;> simp_all

theorem partialSave_decided_ne_no_iff :
    (decided opts).partialSave ≠ .no ↔ ∃ value, lastValue? opts "logsave" = some value ∧
      Text.lowerAscii value ∈ ["partial", "snapshot"] := by
  rw [decided]
  cases lastValue? opts "logsave" with
  | none => simp
  | some value =>
    simp only [Option.elim_some, Option.some.injEq, exists_eq_left']
    exact parse_ne_no_iff

theorem saveInterval_decided_eq_zero_iff (hlegible : Legible opts) :
    (decided opts).saveInterval = 0 ↔
      ∃ value, lastValue? opts "saveinterval" = some value ∧ IsWord value 0 := by
  rw [decided]
  cases hlast : lastValue? opts "saveinterval" with
  | none => simp
  | some value =>
    obtain ⟨n, hn⟩ := hlegible "saveinterval" (by decide) value (List.mem_of_getLast? hlast)
    simp only [Option.elim_some, Option.some.injEq, exists_eq_left', hn.wordOf_eq]
    constructor
    · rintro rfl
      exact hn
    · exact fun hzero => hn.wordOf_eq.symm.trans hzero.wordOf_eq

/-- **Acceptance**: the least values that a buffer size, an eviction unit and a capacity
may have are seen to already, so all that is left is that partial saves take some time. -/
theorem check_decided_eq_ok_iff (hlegible : Legible opts) :
    (decided opts).check = .ok () ↔
      ¬((∃ value, lastValue? opts "logsave" = some value ∧
          Text.lowerAscii value ∈ ["partial", "snapshot"]) ∧
        ∃ value, lastValue? opts "saveinterval" = some value ∧ IsWord value 0) := by
  have hsize := minBufferSize_le_decided opts
  have hunit := evictionUnit_decided_pos opts
  have hcapacity := globalCapacity_decided_pos opts
  rw [← partialSave_decided_ne_no_iff, ← saveInterval_decided_eq_zero_iff hlegible, check,
    if_neg (Nat.not_lt.mpr hsize), if_neg hunit.ne', if_neg hcapacity.ne']
  split_ifs with hnever
  · exact iff_of_false nofun (not_not.mpr hnever)
  · exact iff_of_true rfl hnever

/-! ### Paths without the time -/

open TimePattern in
/-- A mark is only found where it is. -/
theorem infix_of_cut? {mark cs : List Char} {p : List Char × List Char}
    (hcut : cut? mark cs = some p) : mark <:+: cs := by
  induction cs generalizing p with
  | nil =>
    rw [cut?] at hcut
    split_ifs at hcut with hempty
    obtain rfl := List.isEmpty_iff.mp hempty
    exact List.nil_infix
  | cons c rest ih =>
    rw [cut?] at hcut
    split_ifs at hcut with hprefix
    · exact (List.isPrefixOf_iff_prefix.mp hprefix).isInfix
    · obtain ⟨q, hq, -⟩ := Option.map_eq_some_iff.mp hcut
      exact (ih hq).trans (List.infix_cons (List.infix_refl rest))

/-- How both marks for the time begin. -/
def timeMark : List Char := "\x7btime".toList

open TimePattern in
/-- **A path without a mark** is left as it is. -/
theorem fillTime_of_no_mark (hmark : ¬timeMark <:+: value.toList) (now : Moment) :
    fillTime now value = .ok value := by
  -- whatever mark it is, there would be its beginning
  have hcut : ∀ tail, cut? (timeMark ++ tail) value.toList = none := by
    intro tail
    refine Option.eq_none_iff_forall_ne_some.mpr fun p hp => hmark ?_
    exact (List.prefix_append timeMark tail).isInfix.trans (infix_of_cut? hp)
  have hplain : cut? plainMark value.toList = none := hcut ['\x7d']
  have hopen : cut? openMark value.toList = none := hcut [':']
  rw [fillTime, hplain, hopen]
  rfl

/-! ### The items of a string -/

/-- **The items** of a string: what stands between its commas. -/
def items (args : String) : List (List Char) :=
  args.toList.splitOn ','

/-- The option of an item, unless it is blank. -/
def option? (item : List Char) : Option (String × String) :=
  if (Text.trimList item).isEmpty then none else some (keyValue (Text.trimList item))

/-- The value that an item gives for a key, if any. -/
def valueOf? (key : String) (item : List Char) : Option String :=
  (option? item).bind fun o => if o.1 = key then some o.2 else none

theorem options_eq (args : String) : options args = (items args).filterMap option? := by
  rw [options, List.filter_map, List.map_map, ← List.filterMap_eq_map, List.filterMap_filter, items]
  refine List.filterMap_congr fun item _ => ?_
  simp only [option?, Function.comp_apply]
  cases (Text.trimList item).isEmpty <;> rfl

theorem valuesOf_options (items : List (List Char)) (key : String) :
    valuesOf (items.filterMap option?) key = items.filterMap (valueOf? key) :=
  List.filterMap_filterMap

theorem valueOf?_eq_some_iff {item : List Char} :
    valueOf? key item = some value ↔ option? item = some (key, value) := by
  rw [valueOf?]
  cases option? item with
  | none => simp
  | some o =>
    obtain ⟨key', value'⟩ := o
    rw [Option.bind_some]
    split_ifs with heq
    · obtain rfl : key' = key := heq
      simp
    · simp [show key' ≠ key from heq]

theorem isInfix_trimList (cs : List Char) : Text.trimList cs <:+: cs :=
  (List.rdropWhile_prefix _ _).isInfix.trans (List.dropWhile_suffix _).isInfix

/-- Items are parts of the string. -/
theorem infix_of_mem_items {args : String} {item : List Char} (hitem : item ∈ items args) :
    item <:+: args.toList := by
  obtain ⟨i, hi, rfl⟩ := List.mem_iff_getElem.mp hitem
  have hmem : (items args)[i] ∈ (items args).intersperse [','] := by
    refine List.mem_of_getElem? (i := 2 * i) ?_
    rw [List.getElem?_intersperse_two_mul, List.getElem?_eq_getElem hi]
  -- the pieces in between are the commas
  have hargs : ((items args).intersperse [',']).flatten = args.toList :=
    List.intercalate_splitOn ','
  rw [← hargs]
  exact List.infix_of_mem_flatten hmem

/-- So are the values of their options. -/
theorem infix_of_mem_valuesOf {args : String} (hvalue : value ∈ valuesOf (options args) key) :
    value.toList <:+: args.toList := by
  rw [options_eq, valuesOf_options] at hvalue
  obtain ⟨item, hitem, hgiven⟩ := List.mem_filterMap.mp hvalue
  refine List.IsInfix.trans ?_ (infix_of_mem_items hitem)
  refine List.IsInfix.trans ?_ (isInfix_trimList item)
  have hoption := valueOf?_eq_some_iff.mp hgiven
  rw [option?] at hoption
  split_ifs at hoption
  have hdropped : value = (keyValue (Text.trimList item)).2 :=
    congrArg Prod.snd (Option.some.inj hoption).symm
  rw [hdropped, keyValue, String.toList_ofList]
  exact ((List.drop_suffix _ _).trans (List.drop_suffix _ _)).isInfix

theorem timeless_options {args : String} (htime : ¬timeMark <:+: args.toList) :
    Timeless (options args) := by
  intro key _ value hvalue now
  exact fillTime_of_no_mark (fun hmark => htime (hmark.trans (infix_of_mem_valuesOf hvalue))) now

/-! ### Edits -/

/-- Two items that are not options of one key. -/
def DistinctKeys (item item' : List Char) : Prop :=
  ∀ o ∈ option? item, ∀ o' ∈ option? item', o.1 ≠ o'.1

instance (item item' : List Char) : Decidable (DistinctKeys item item') :=
  inferInstanceAs (Decidable (∀ o ∈ option? item, ∀ o' ∈ option? item', o.1 ≠ o'.1))

/-- **Edits** of the items of a string that do not matter. -/
inductive Edit : List (List Char) → List (List Char) → Prop
  /-- Neighbours with different keys change places. -/
  | swap (before after : List (List Char)) {item item' : List Char} : DistinctKeys item item' →
      Edit (before ++ item :: item' :: after) (before ++ item' :: item :: after)
  /-- Items with different keys are put in any order. -/
  | permute {items items' : List (List Char)} : items.Pairwise DistinctKeys →
      items.Perm items' → Edit items items'
  /-- An option is inserted whose key means nothing. -/
  | unknown (before after : List (List Char)) {item : List Char} :
      (∀ o ∈ option? item, o.1 ∉ knownKeys) → Edit (before ++ after) (before ++ item :: after)
  /-- White space is inserted, or nothing at all, as an item of its own. -/
  | blank (before after : List (List Char)) {item : List Char} :
      (∀ c ∈ item, Text.isBlank c = true) → Edit (before ++ after) (before ++ item :: after)
  /-- White space is inserted around an item. -/
  | pad (before after : List (List Char)) {left item right : List Char} :
      (∀ c ∈ left, Text.isBlank c = true) → (∀ c ∈ right, Text.isBlank c = true) →
      Edit (before ++ item :: after) (before ++ (left ++ item ++ right) :: after)

/-- Of two items with different keys at most one has a value for a key. -/
theorem DistinctKeys.ne {item item' : List Char} (h : DistinctKeys item item') {value' : String}
    (hvalue : valueOf? key item = some value) : valueOf? key item' ≠ some value' := by
  intro hvalue'
  exact h _ (valueOf?_eq_some_iff.mp hvalue) _ (valueOf?_eq_some_iff.mp hvalue') rfl

theorem DistinctKeys.symm {item item' : List Char} (h : DistinctKeys item item') :
    DistinctKeys item' item :=
  fun o ho o' ho' => (h o' ho' o ho).symm

/-- Items with different keys have at most one value for each, so that its place does not
matter. -/
theorem filterMap_valueOf?_of_perm {items items' : List (List Char)}
    (hdistinct : items.Pairwise DistinctKeys) (hperm : items.Perm items') (key : String) :
    items.filterMap (valueOf? key) = items'.filterMap (valueOf? key) := by
  -- no two values are left, so there is only one order that they can be in
  have hone : ∀ {l : List (List Char)}, l.Pairwise DistinctKeys →
      (l.filterMap (valueOf? key)).Pairwise fun _ _ => False := by
    intro l hl
    refine List.Pairwise.filterMap _ (fun item item' h value hvalue value' hvalue' => ?_) hl
    exact h.ne hvalue hvalue'
  have hdistinct' : items'.Pairwise DistinctKeys :=
    (hperm.pairwise_iff fun h => h.symm).mp hdistinct
  exact (hperm.filterMap _).eq_of_pairwise (fun _ _ _ _ h _ => h.elim) (hone hdistinct)
    (hone hdistinct')

/-- White space around a text does not count. -/
theorem trimList_pad {left cs right : List Char} (hleft : ∀ c ∈ left, Text.isBlank c = true)
    (hright : ∀ c ∈ right, Text.isBlank c = true) :
    Text.trimList (left ++ cs ++ right) = Text.trimList cs := by
  have hright' : ∀ c ∈ right.reverse, Text.isBlank c = true :=
    fun c hc => hright c (List.mem_reverse.mp hc)
  have hnone : right.dropWhile Text.isBlank = [] := List.dropWhile_eq_nil_iff.mpr hright
  rw [Text.trimList, Text.trimList, List.append_assoc, List.dropWhile_append_of_pos hleft,
    List.dropWhile_append]
  split_ifs with hempty
  · -- nothing but white space
    rw [hnone, List.isEmpty_iff.mp hempty]
  · rw [List.reverse_append, List.dropWhile_append_of_pos hright']

theorem trimList_of_blank {cs : List Char} (h : ∀ c ∈ cs, Text.isBlank c = true) :
    Text.trimList cs = [] := by
  rw [Text.trimList, List.dropWhile_eq_nil_iff.mpr h]
  rfl

/-- **An edit leaves all known keys their values.** -/
theorem Edit.sameValues {items items' : List (List Char)} (h : Edit items items') :
    SameValues (items.filterMap option?) (items'.filterMap option?) := by
  intro key hkey
  rw [valuesOf_options, valuesOf_options]
  -- an item that is no option of the key may stand anywhere
  have hinsert : ∀ {before after : List (List Char)} {item : List Char},
      (∀ o ∈ option? item, o.1 ∉ knownKeys) →
      (before ++ after).filterMap (valueOf? key) =
        (before ++ item :: after).filterMap (valueOf? key) := by
    intro before after item hunknown
    have hnone : valueOf? key item = none := Option.eq_none_iff_forall_ne_some.mpr
      fun value hvalue => hunknown _ (valueOf?_eq_some_iff.mp hvalue) hkey
    rw [List.filterMap_append, List.filterMap_append, List.filterMap_cons_none hnone]
  cases h with
  | @swap before after item item' hdistinct =>
    rw [List.filterMap_append, List.filterMap_append]
    cases hvalue : valueOf? key item with
    | none => simp [List.filterMap_cons, hvalue]
    | some value =>
      have hnone : valueOf? key item' = none :=
        Option.eq_none_iff_forall_ne_some.mpr fun _ => hdistinct.ne hvalue
      simp [List.filterMap_cons, hnone]
  | permute hdistinct hperm => exact filterMap_valueOf?_of_perm hdistinct hperm key
  | unknown before after hunknown => exact hinsert hunknown
  | @blank before after item hblank =>
    refine hinsert fun o ho => ?_
    rw [option?, trimList_of_blank hblank] at ho
    cases ho
  | @pad before after left item right hleft hright =>
    have hvalue : valueOf? key (left ++ item ++ right) = valueOf? key item := by
      rw [valueOf?, valueOf?, option?, option?, trimList_pad hleft hright]
    rw [List.filterMap_append, List.filterMap_append, List.filterMap_cons, List.filterMap_cons,
      hvalue]

/-- So do any number of edits, and to undo some. -/
theorem sameValues_of_edits {items items' : List (List Char)}
    (h : Relation.EqvGen Edit items items') :
    SameValues (items.filterMap option?) (items'.filterMap option?) := by
  induction h with
  | rel _ _ h => exact h.sameValues
  | refl => exact fun _ _ => rfl
  | symm _ _ _ ih => exact fun key hkey => (ih key hkey).symm
  | trans _ _ _ _ _ ih ih' => exact fun key hkey => (ih key hkey).trans (ih' key hkey)

/-! ### The settings of a string -/

theorem ofOptions_eq_ok_iff {args : String} (htime : Timeless (options args)) :
    ofOptions now args = .ok s ↔
      Legible (options args) ∧ decided (options args) = s ∧ s.check = .ok () := by
  rw [ofOptions, bind_eq_ok_iff]
  simp only [foldlM_apply_eq_ok_iff htime, bind_eq_ok_iff]
  constructor
  · rintro ⟨_, ⟨hlegible, rfl⟩, _, hcheck, hs⟩
    obtain rfl := Except.ok.inj hs
    exact ⟨hlegible, rfl, hcheck⟩
  · rintro ⟨hlegible, rfl, hcheck⟩
    exact ⟨_, ⟨hlegible, rfl⟩, (), hcheck, rfl⟩

/-- **The last option of each key decides.** A string without a mark for the time stands
for settings if and only if every value that it gives for a size, a trim, a capacity or a
save interval is a word, and not both its last word on partial saves asks for some and its
last save interval is none. These settings are what the last values decide, and are
accepted; and however items of different keys change places, and wherever options that
mean nothing, blank items and white space around items come and go, they stay the same, at
any moment. -/
theorem settings_of_options (now : Moment) (args : String) (htime : ¬timeMark <:+: args.toList) :
    ((∃ s, ofOptions now args = .ok s) ↔
      (∀ key ∈ wordKeys, ∀ value ∈ valuesOf (options args) key, ∃ n, IsWord value n) ∧
      ¬((∃ value, lastValue? (options args) "logsave" = some value ∧
          Text.lowerAscii value ∈ ["partial", "snapshot"]) ∧
        ∃ value, lastValue? (options args) "saveinterval" = some value ∧ IsWord value 0)) ∧
    ∀ s, ofOptions now args = .ok s →
      s = decided (options args) ∧ s.check = .ok () ∧
      ∀ args' now', Relation.EqvGen Edit (items args) (items args') →
        ofOptions now' args' = .ok s := by
  have htimeless := timeless_options htime
  have hok : ∀ s, ofOptions now args = .ok s ↔ _ := fun s => ofOptions_eq_ok_iff htimeless
  constructor
  · constructor
    · rintro ⟨s, hs⟩
      obtain ⟨hlegible, rfl, hcheck⟩ := (hok s).mp hs
      exact ⟨hlegible, (check_decided_eq_ok_iff hlegible).mp hcheck⟩
    · rintro ⟨hlegible, haccepted⟩
      have hcheck := (check_decided_eq_ok_iff hlegible).mpr haccepted
      exact ⟨_, (hok _).mpr ⟨hlegible, rfl, hcheck⟩⟩
  · intro s hs
    obtain ⟨hlegible, rfl, hcheck⟩ := (hok s).mp hs
    refine ⟨rfl, hcheck, fun args' now' hedits => ?_⟩
    have hsame : SameValues (options args) (options args') := by
      rw [options_eq, options_eq]
      exact sameValues_of_edits hedits
    exact (ofOptions_eq_ok_iff (hsame.timeless htimeless)).mpr
      ⟨hsame.legible hlegible, hsame.decided_eq.symm, hcheck⟩

/-- Sizes, of which the last one counts, a trim that is too small, a policy that nobody
knows, and partial saves; then the same with the trim in front, and with a blank item. -/
theorem settings_of_options_repeated :
    let args := "size=1,trim=0,size=+64,keepobj=weak,keepobj=none,logsave=Partial"
    let args' := "trim=0, ,size=1,size=+64,keepobj=weak,keepobj=none,logsave=Partial"
    let s : Settings := { bufferSize := 64, evictionUnit := 1, retention := .weak,
                          partialSave := .writeAndReset }
    ¬timeMark <:+: args.toList ∧ ofOptions default args = .ok s ∧ ofOptions default args' = .ok s ∧
      s = decided (options args) := by
  intro args args' s
  have htime : ¬timeMark <:+: args.toList := by decide +kernel
  have hok : ofOptions default args = .ok s := by decide +kernel
  obtain ⟨hdecided, -, hedits⟩ := (settings_of_options default args htime).2 s hok
  let rest := ["size=+64".toList, "keepobj=weak".toList, "keepobj=none".toList,
    "logsave=Partial".toList]
  have hargs : items args = [] ++ "size=1".toList :: "trim=0".toList :: rest := by decide +kernel
  have hargs' : items args' = ["trim=0".toList] ++ [' '] :: "size=1".toList :: rest := by
    decide +kernel
  have hswap : Edit (items args) ([] ++ "trim=0".toList :: "size=1".toList :: rest) :=
    hargs ▸ .swap [] rest (by decide +kernel)
  have hblank : Edit (["trim=0".toList] ++ "size=1".toList :: rest) (items args') :=
    hargs' ▸ .blank ["trim=0".toList] ("size=1".toList :: rest) (List.forall_mem_singleton.mpr rfl)
  have hsame := hedits args' default (.trans _ _ _ (.rel _ _ hswap) (.rel _ _ hblank))
  exact ⟨htime, hok, hsame, hdecided⟩

end Settings

end FlightRecorder
