import MockProxy.Authentication.Loads

/-!
# The attributes of a user

`add` validates the attributes of a user that exists, but of a new one it only asks whether they are
JSON, and attributes that differ from the stored ones by the case of letters are not looked at.
`attributes_of_last_iff` says when this makes no difference: the isolation level is a valid one, and
what is stored does not differ by the case of letters only.
-/

namespace MockProxy.Authentication

/-- One of the four levels, in upper and lower case -/
def isLevel (level : String) : Bool := isolationLevels.any (sameFolded level)

/-- What the library promises about the isolation level of a value. -/
structure Json.Lawful (json : Json) : Prop where
  parse_empty : json.parse "" = none
  parse_dump : ∀ v, json.parse (json.dump v) = some v
  isolation_set : ∀ v level, isLevel level →
    json.isolation (json.setIsolation v level) = some (some level)
  isolation_erase : ∀ v, json.isolation (json.eraseIsolation v) = none

section

variable {json : Json} {v w : json.Value} {a level : String}

/-- The account behind calls of `add` for one user. -/
def added (json : Json) (rows : List Row) : Option Account :=
  rows.foldl (fun ad row => some (row.addTo json ad)) none

/-- If there is an isolation level, it is one of the four. -/
def LevelValid (json : Json) (attributes : String) : Prop :=
  ∀ v level, json.parse attributes = some v → json.isolation v = some level → level.any isLevel

theorem levelValid_of_refused (refused : json.parse a = none) : LevelValid json a := by
  intro v level parsed
  rw [refused] at parsed
  cases parsed

theorem levelValid_iff (parsed : json.parse a = some v) :
    LevelValid json a ↔ ∀ level, json.isolation v = some level → level.any isLevel := by
  constructor
  · exact fun valid level => valid v level parsed
  · intro valid v' level parsed'
    obtain rfl : v = v' := Option.some.inj (parsed.symm.trans parsed')
    exact valid level

/-- Without a hyphen, the level is compared as it is. -/
theorem map_hyphen (none : ¬ level.any (· = '-')) :
    level.map (fun c => if c = '-' then ' ' else c) = level := by
  have all : ∀ c ∈ level.toList, c ≠ '-' := by
    intro c mem eq
    refine none (String.contains_bool_eq.trans (List.any_eq_true.mpr ⟨c, mem, ?_⟩))
    rw [eq]
    rfl
  apply String.toList_injective
  rw [String.toList_map]
  exact (List.map_congr_left fun c mem => if_neg (all c mem)).trans (List.map_id _)

/-- A level with a hyphen is none of the four. -/
theorem hyphen_of_not_level (hyphen : level.any (· = '-')) : ¬ isLevel level := by
  intro valid
  obtain ⟨known, among, same⟩ := List.any_eq_true.mp valid
  obtain ⟨c, inside, isHyphen⟩ := List.any_eq_true.mp (String.contains_bool_eq.symm.trans hyphen)
  have folded := CString.sameFolded_iff.mp same
  have member : '-' ∈ known.toList.map Char.toLower := by
    rw [← folded]
    refine List.mem_map.mpr ⟨c, inside, ?_⟩
    rw [of_decide_eq_true isHyphen]
    rfl
  have without : ∀ level ∈ isolationLevels, '-' ∉ level.toList.map Char.toLower := by decide
  exact without known among member

/-- What was rewritten has another level than the text had, or none. -/
theorem dumped_ne (lawful : json.Lawful) (parsed : json.parse a = some v)
    (changed : json.isolation w ≠ json.isolation v) : dumped json w ≠ a := by
  intro same
  unfold dumped at same
  split_ifs at same
  · rw [← same, lawful.parse_empty] at parsed
    cases parsed
  · rw [← same, lawful.parse_dump] at parsed
    cases parsed
    exact changed rfl

theorem levelValid_dumped (lawful : json.Lawful)
    (valid : ∀ level, json.isolation w = some level → level.any isLevel) :
    LevelValid json (dumped json w) := by
  unfold dumped
  split_ifs
  · exact levelValid_of_refused lawful.parse_empty
  · exact (levelValid_iff (lawful.parse_dump w)).mpr valid

/-- An account that exists gets the attributes of a new one exactly if the level is valid as it is
written. Its level is valid in any case. -/
theorem checkAttributes_spec (lawful : json.Lawful) (a : String) :
    (checkAttributes json a = checkNewAttributes json a ↔ LevelValid json a) ∧
      LevelValid json (checkAttributes json a) := by
  have nothing := levelValid_of_refused lawful.parse_empty
  unfold checkAttributes checkNewAttributes
  split_ifs with empty
  · rw [String.isEmpty_iff.mp empty]
    exact ⟨iff_of_true rfl nothing, nothing⟩
  have there : a ≠ "" := fun nil => empty (String.isEmpty_iff.mpr nil)
  cases parsed : json.parse a with
  | none => exact ⟨iff_of_true rfl (levelValid_of_refused parsed), nothing⟩
  | some v =>
    dsimp only
    rw [levelValid_iff parsed]
    cases has : json.isolation v with
    | none =>
      refine ⟨iff_of_true rfl (by simp), (levelValid_iff parsed).mpr (by simp [has])⟩
    | some read =>
      cases read with
      | none => exact ⟨iff_of_false there.symm (by simp), nothing⟩
      | some level =>
        dsimp only
        by_cases hyphen : level.any (· = '-')
        · -- a level with a hyphen is rewritten or taken out
          have invalid := hyphen_of_not_level hyphen
          rw [if_pos hyphen]
          split_ifs with known
          · have set := lawful.isolation_set v _ known
            refine ⟨iff_of_false (dumped_ne lawful parsed ?_) (by simp [invalid]),
              levelValid_dumped lawful (by simp [set, isLevel, known])⟩
            rw [set, has]
            intro same
            rw [← Option.some.inj (Option.some.inj same)] at invalid
            exact invalid known
          · have erased := lawful.isolation_erase v
            refine ⟨iff_of_false (dumped_ne lawful parsed ?_) (by simp [invalid]),
              levelValid_dumped lawful (by simp [erased])⟩
            rw [erased, has]
            exact nofun
        · rw [map_hyphen hyphen, if_neg hyphen]
          split_ifs with known
          · refine ⟨iff_of_true rfl (by simp [isLevel, known]), (levelValid_iff parsed).mpr ?_⟩
            simp [isLevel, known, has]
          · have erased := lawful.isolation_erase v
            refine ⟨iff_of_false (dumped_ne lawful parsed ?_) (by simp [isLevel, known]),
              levelValid_dumped lawful (by simp [erased])⟩
            rw [erased, has]
            exact nofun

/-- Whatever is stored is empty or JSON. -/
def Storable (json : Json) (attributes : String) : Prop :=
  attributes = "" ∨ (json.parse attributes).isSome

theorem storable_dumped (lawful : json.Lawful) : Storable json (dumped json v) := by
  unfold dumped
  split_ifs
  · exact .inl rfl
  · exact .inr (by rw [lawful.parse_dump]; rfl)

theorem storable_checkAttributes (lawful : json.Lawful) (a : String) :
    Storable json (checkAttributes json a) := by
  unfold checkAttributes
  split_ifs with empty
  · exact .inl (String.isEmpty_iff.mp empty)
  cases parsed : json.parse a with
  | none => exact .inl rfl
  | some v =>
    have storable : Storable json a := .inr (by rw [parsed]; rfl)
    dsimp only
    split
    · exact storable
    · exact .inl rfl
    · split_ifs
      exacts [storable_dumped lawful, storable, storable_dumped lawful]

theorem checkNewAttributes_spec (a : String) :
    Storable json (checkNewAttributes json a) ∧
      (checkNewAttributes json a = a ∨ checkNewAttributes json a = "" ∧ ¬ Storable json a) := by
  unfold checkNewAttributes Storable
  split_ifs with empty
  · exact ⟨.inl (String.isEmpty_iff.mp empty), .inl rfl⟩
  · cases parsed : json.parse a with
    | none =>
      have there : a ≠ "" := fun nil => empty (String.isEmpty_iff.mpr nil)
      exact ⟨.inl rfl, .inr ⟨rfl, by simp [there]⟩⟩
    | some v => exact ⟨.inr (by rw [parsed]; rfl), .inl rfl⟩

theorem added_append (rows : List Row) (row : Row) :
    added json (rows ++ [row]) = some (row.addTo json (added json rows)) := by
  rw [added, List.foldl_append]
  rfl

theorem storable_added (lawful : json.Lawful) (rows : List Row) {ad : Account}
    (there : added json rows = some ad) : Storable json ad.attributes := by
  induction rows using List.reverseRecOn generalizing ad with
  | nil => cases there
  | append_singleton front row ih =>
    obtain rfl := Option.some.inj ((added_append front row).symm.trans there)
    cases before : added json front with
    | none => exact (checkNewAttributes_spec _).1
    | some old =>
      show Storable json (if _ then _ else _)
      split_ifs
      · exact ih before
      · exact storable_checkAttributes lawful _

theorem eq_empty_of_folded (folded : sameFolded "" a = true) : a = "" := by
  have nil := List.map_eq_nil_iff.mp (CString.sameFolded_iff.mp folded).symm
  exact String.toList_eq_nil_iff.mp nil

/-- What is stored and differs from the text at most by the case of letters is what a new account
gets for the text exactly if it is the text. -/
theorem eq_checkNewAttributes {stored : String} (storable : Storable json stored)
    (folded : sameFolded stored a = true) : stored = checkNewAttributes json a ↔ stored = a := by
  rcases (checkNewAttributes_spec a).2 with same | ⟨empty, refused⟩
  · rw [same]
  · rw [empty]
    constructor
    · rintro rfl
      exact (eq_empty_of_folded folded).symm
    · rintro rfl
      exact absurd storable refused

/-- The attributes that an `add` stores behind earlier ones for the user are those of a new account
and have a valid level, exactly if the level is valid as it is written and there are not stored
attributes that differ from them by the case of letters only. -/
theorem attributes_of_last_iff (lawful : json.Lawful) (earlier : List Row) (row : Row) :
    (row.addTo json (added json earlier)).attributes = (row.newAccount json).attributes ∧
        LevelValid json (row.addTo json (added json earlier)).attributes ↔
      LevelValid json row.attributes ∧
        ∀ ad, added json earlier = some ad → sameFolded ad.attributes row.attributes = true →
          ad.attributes = row.attributes := by
  have levelNew : LevelValid json (checkNewAttributes json row.attributes) ↔
      LevelValid json row.attributes := by
    rcases (checkNewAttributes_spec row.attributes).2 with same | ⟨empty, refused⟩
    · rw [same]
    · have none : json.parse row.attributes = none := by
        simpa using (not_or.mp refused).2
      rw [empty]
      exact iff_of_true (levelValid_of_refused lawful.parse_empty) (levelValid_of_refused none)
  cases before : added json earlier with
  | none =>
    have new : (row.addTo json none).attributes = checkNewAttributes json row.attributes := rfl
    have same : (row.newAccount json).attributes = checkNewAttributes json row.attributes := rfl
    rw [new, same, levelNew]
    simp
  | some ad =>
    have old : (row.addTo json (some ad)).attributes =
        if sameFolded ad.attributes row.attributes then ad.attributes
        else checkAttributes json row.attributes := rfl
    have same : (row.newAccount json).attributes = checkNewAttributes json row.attributes := rfl
    rw [old, same]
    split_ifs with folded
    · rw [eq_checkNewAttributes (storable_added lawful earlier before) folded]
      constructor
      · rintro ⟨eq, valid⟩
        exact ⟨eq ▸ valid, by rintro _ ⟨⟩ -; exact eq⟩
      · rintro ⟨valid, spelled⟩
        have eq := spelled ad rfl folded
        exact ⟨eq, eq ▸ valid⟩
    · obtain ⟨kept, valid⟩ := checkAttributes_spec lawful row.attributes
      rw [kept]
      simp [valid, folded]

end

/-! ### Objects with a level -/

/-- The characters that stand in a JSON string as they are -/
def isPlain (c : Char) : Bool := c ≠ '"' && c ≠ '\\' && ' ' ≤ c

theorem isPlain_of_toLower {c : Char} (lower : c.toLower = ' ' ∨ c.toLower.isLower) :
    isPlain c := by
  by_contra escaped
  have other : c = '"' ∨ c = '\\' ∨ ¬ ' '.val ≤ c.val := by
    simpa only [isPlain, Bool.and_eq_true, decide_eq_true_eq, not_and_or, not_not, Char.le_def,
      or_assoc] using escaped
  rcases other with rfl | rfl | control
  · exact absurd lower (by decide)
  · exact absurd lower (by decide)
  · -- a control character is no letter
    have small := UInt32.not_le.mp control
    have notUpper : ¬ (c.val ≥ 'A'.val ∧ c.val ≤ 'Z'.val) := fun upper =>
      absurd (UInt32.lt_of_le_of_lt upper.1 small) (by decide)
    rw [show c.toLower = c from dif_neg notUpper] at lower
    rcases lower with rfl | isLower
    · exact absurd small (by decide)
    · have range : (decide ('a'.val ≤ c.val) && decide (c.val ≤ 'z'.val)) = true := isLower
      have low := of_decide_eq_true (Bool.and_eq_true_iff.mp range).1
      exact absurd (UInt32.lt_of_le_of_lt low small) (by decide)

def levelHeader : List Char := "\x7b\"default-transaction_isolation\":\"".toList

def levelText (level : List Char) : List Char := levelHeader ++ level ++ ['"', '\x7d']

/-- The level in a text of this form -/
def levelIn (text : List Char) : List Char :=
  (text.drop levelHeader.length).take (text.length - (levelHeader.length + 2))

theorem levelIn_levelText (level : List Char) : levelIn (levelText level) = level := by
  rw [levelIn, levelText, List.append_assoc, List.drop_left]
  refine List.take_left' ?_
  simp only [List.length_append, List.length_cons, List.length_nil]
  omega

/-- The library on objects with nothing but an isolation level that needs no escapes. Other texts
are refused. -/
def levelJson : Json where
  Value := Option { level : List Char // level.all isPlain }
  parse text :=
    if text = "\x7b\x7d" then some none
    else if plain : (levelIn text.toList).all isPlain then
      if text.toList = levelText (levelIn text.toList) then some (some ⟨_, plain⟩) else none
    else none
  isolation v := v.map fun level => some (.ofList level.val)
  setIsolation v level :=
    if plain : level.toList.all isPlain then some ⟨_, plain⟩ else v
  eraseIsolation _ := none
  dump v := v.elim "\x7b\x7d" fun level => .ofList (levelText level.val)

theorem plain_of_isLevel {level : String} (valid : isLevel level) : level.toList.all isPlain := by
  obtain ⟨known, among, same⟩ := List.any_eq_true.mp valid
  have folded := CString.sameFolded_iff.mp same
  have plain : ∀ level ∈ isolationLevels,
      (level.toList.map Char.toLower).all fun c => c = ' ' ∨ c.isLower := by decide
  have lower := folded ▸ plain known among
  refine List.all_eq_true.mpr fun c member => isPlain_of_toLower ?_
  exact of_decide_eq_true (List.all_eq_true.mp lower _ (List.mem_map_of_mem member))

theorem lawful_levelJson : levelJson.Lawful where
  parse_empty := by decide +kernel
  parse_dump v := by
    cases v with
    | none => rfl
    | some level =>
      have other : String.ofList (levelText level.val) ≠ "\x7b\x7d" := by
        intro same
        have length := congrArg (fun text => text.toList.length) same
        have header : levelHeader.length = 34 := by decide
        simp only [levelText, String.toList_ofList, List.length_append, header] at length
        have two : "\x7b\x7d".toList.length = 2 := by decide
        omega
      simp [levelJson, other, levelIn_levelText, level.property]
  isolation_set v level valid := by
    have plain := plain_of_isLevel valid
    simp [levelJson, plain]
  isolation_erase _ := rfl

def withLevel (level : String) : Row :=
  { sampleRow with attributes := .ofList (levelText level.toList) }

theorem levelValid_withLevel {level : String} (plain : level.toList.all isPlain) :
    LevelValid levelJson (withLevel level).attributes ↔ isLevel level := by
  have parsed : levelJson.parse (withLevel level).attributes = some (some ⟨level.toList, plain⟩) :=
    lawful_levelJson.parse_dump (some ⟨level.toList, plain⟩)
  rw [levelValid_iff parsed]
  simp [levelJson]

theorem attributes_of_last_serializable :
    levelJson.Lawful ∧ ((withLevel "SERIALIZABLE").addTo levelJson
        (added levelJson [withLevel "CHAOS"])).attributes =
      "\x7b\"default-transaction_isolation\":\"SERIALIZABLE\"\x7d" := by
  have last := (attributes_of_last_iff lawful_levelJson [withLevel "CHAOS"]
    (withLevel "SERIALIZABLE")).mpr
  refine ⟨lawful_levelJson, (last ⟨?_, ?_⟩).1.trans (by decide +kernel)⟩
  · exact (levelValid_withLevel (by decide)).mpr (by decide)
  · intro ad there folded
    have stored : (added levelJson [withLevel "CHAOS"]).map Account.attributes =
        some (withLevel "CHAOS").attributes := by decide +kernel
    rw [there] at stored
    rw [Option.some.inj stored] at folded
    exact absurd folded (by decide +kernel)

/-- An unknown isolation level of a new user is stored; if the user was there, it is taken out. -/
theorem unknown_level_stored :
    ((withLevel "CHAOS").addTo levelJson (added levelJson [])).attributes =
        "\x7b\"default-transaction_isolation\":\"CHAOS\"\x7d" ∧
      ¬ LevelValid levelJson "\x7b\"default-transaction_isolation\":\"CHAOS\"\x7d" ∧
      ((withLevel "CHAOS").addTo levelJson (added levelJson [sampleRow])).attributes = "" := by
  have text : "\x7b\"default-transaction_isolation\":\"CHAOS\"\x7d" =
      (withLevel "CHAOS").attributes := by decide +kernel
  refine ⟨by decide +kernel, ?_, by decide +kernel⟩
  rw [text, levelValid_withLevel (by decide)]
  decide

end MockProxy.Authentication
