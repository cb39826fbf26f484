import ExhaustionGuard.Proofs.Heap.Tagging

/-! # Requests for class tags

Signatures that ask for tags one after another get the numbers from one on, as
long as these stay below the limit; from then on nobody gets one. At every
moment the tags lead back to the signatures in the order in which they asked,
and no tag ever changes its meaning.
-/

namespace ExhaustionGuard.Heap.ClassTags

/-- The tags after signatures have asked for them one after another. -/
def afterRequests : ClassTags → List String → ClassTags
  | tags, [] => tags
  | tags, signature :: rest => (tags.assign signature).2.afterRequests rest

/-- How many tags a limit allows for. -/
def capacity (limit : Int) : Nat := (limit - 1).toNat

variable {tags : ClassTags}

theorem assign_of_room (hroom : (tags.size : Int) + 1 < tags.limit) (signature : String) :
    tags.assign signature =
      (.ok (tags.size + 1), { tags with signatures := tags.signatures.push signature }) :=
  if_pos hroom

theorem assign_of_full (hfull : tags.limit ≤ tags.size + 1) (signature : String) :
    tags.assign signature = (.error (.tagSpaceExhausted tags.size), tags) :=
  if_neg (Int.not_lt.mpr hfull)

@[simp]
theorem limit_afterRequests (tags : ClassTags) (signatures : List String) :
    (tags.afterRequests signatures).limit = tags.limit := by
  induction signatures generalizing tags with
  | nil => rfl
  | cons signature rest ih =>
      rw [afterRequests, ih]
      rcases Int.lt_or_le (tags.size + 1) tags.limit with hroom | hfull
      · rw [assign_of_room hroom]
      · rw [assign_of_full hfull]

/-- The first signatures to ask get the tags that are left. -/
theorem signatures_afterRequests (tags : ClassTags) (signatures : List String) :
    (tags.afterRequests signatures).signatures.toList =
      tags.signatures.toList ++ signatures.take (capacity tags.limit - tags.size) := by
  induction signatures generalizing tags with
  | nil => simp [afterRequests]
  | cons signature rest ih =>
      rw [afterRequests, ih]
      rcases Int.lt_or_le (tags.size + 1) tags.limit with hroom | hfull
      · have hleft : capacity tags.limit - tags.size =
            capacity tags.limit - (tags.size + 1) + 1 := by
          simp only [capacity]
          omega
        rw [assign_of_room hroom, hleft, List.take_succ_cons]
        simp [size]
      · have hnone : capacity tags.limit - tags.size = 0 := by
          simp only [capacity]
          omega
        rw [assign_of_full hfull, hnone, List.take_zero, List.take_zero]

theorem signatures_afterRequests_empty (limit : Int) (past : List String) :
    ((empty limit).afterRequests past).signatures.toList = past.take (capacity limit) :=
  signatures_afterRequests (empty limit) past

theorem size_afterRequests_empty (limit : Int) (past : List String) :
    ((empty limit).afterRequests past).size = min past.length (capacity limit) := by
  rw [size, ← Array.length_toList, signatures_afterRequests_empty, List.length_take, min_comm]

/-- The tags that have a meaning are those from one up to the number of the tags given. -/
theorem signature?_eq_getElem? (tags : ClassTags) (tag : Int) :
    tags.signature? tag =
      if 1 ≤ tag ∧ tag ≤ tags.size then tags.signatures.toList[(tag - 1).toNat]? else none := by
  rw [signature?, ← Array.getElem?_toList]
  by_cases hlow : tag < 1
  · rw [if_pos hlow, if_neg (by omega)]
  · rw [if_neg hlow]
    split
    next => rfl
    next hhigh =>
      rw [List.getElem?_eq_none]
      rw [Array.length_toList]
      simp only [size] at hhigh
      omega

/-- No tag changes its meaning, whoever asks later. -/
theorem signature?_afterRequests {tag : Int} {name : String}
    (hname : tags.signature? tag = some name) (later : List String) :
    (tags.afterRequests later).signature? tag = some name := by
  obtain ⟨place, hplace, rfl⟩ := signature?_eq_some_iff.mp hname
  refine signature?_eq_some_iff.mpr ⟨place, ?_, rfl⟩
  rw [← Array.getElem?_toList] at hplace ⊢
  rw [signatures_afterRequests,
    List.getElem?_append_left (List.getElem?_eq_some_iff.mp hplace).1, hplace]

/-- A signature that gets a tag gets one in the range, and the tag leads back to it. -/
theorem range_of_assign {signature : String} {tag : Int}
    (hok : (tags.assign signature).1 = .ok tag) :
    (1 ≤ tag ∧ tag < tags.limit) ∧
      (tags.assign signature).2.signature? tag = some signature := by
  have hassign : tags.assign signature = (.ok tag, (tags.assign signature).2) := Prod.ext hok rfl
  obtain ⟨hnumber, hlimit, -⟩ := of_assign_eq_ok hassign
  exact ⟨⟨by omega, hlimit⟩, signature?_assigned hassign⟩

/-- What holds of the tags below a limit after signatures have asked for them one after another. -/
structure LeadBack (tags : ClassTags) (limit : Int) (past : List String) : Prop where
  /-- The next request gets the next number while there is one, and otherwise changes nothing. -/
  next : ∀ signature, if (past.length : Int) + 1 < limit
    then (tags.assign signature).1 = .ok (past.length + 1)
    else tags.assign signature = (.error (.tagSpaceExhausted tags.size), tags)
  size : tags.size = min past.length (capacity limit)
  /-- The tags lead back to the signatures in the order in which they asked. -/
  back : ∀ tag, tags.signature? tag =
    if 1 ≤ tag ∧ tag ≤ tags.size then past[(tag - 1).toNat]? else none
  /-- Whoever asks later, no tag changes its meaning. -/
  lasting : ∀ later tag name, tags.signature? tag = some name →
    (tags.afterRequests later).signature? tag = some name
  /-- A tag that is given leads back to the signature that gets it. -/
  given : ∀ signature tag, (tags.assign signature).1 = .ok tag →
    (1 ≤ tag ∧ tag < limit) ∧ (tags.assign signature).2.signature? tag = some signature
  /-- It fits into the bits that are kept for it, if the limit does. -/
  fits : limit ≤ classTagLimit → ∀ signature tag, (tags.assign signature).1 = .ok tag →
    classBits tag = tag

/-- Tags and signatures belong together, whoever asks and however often. -/
theorem tags_lead_back (limit : Int) (past : List String) :
    LeadBack ((empty limit).afterRequests past) limit past := by
  have hlimit : ((empty limit).afterRequests past).limit = limit :=
    limit_afterRequests (empty limit) past
  have hsize := size_afterRequests_empty limit past
  have hgiven : ∀ signature tag,
      (((empty limit).afterRequests past).assign signature).1 = .ok tag →
        (1 ≤ tag ∧ tag < limit) ∧
          (((empty limit).afterRequests past).assign signature).2.signature? tag =
            some signature := by
    intro signature tag hok
    have hrange := range_of_assign hok
    rwa [hlimit] at hrange
  refine ⟨fun signature => ?_, hsize, fun tag => ?_,
    fun later _ _ hname => signature?_afterRequests hname later, hgiven,
    fun hbits signature tag hok => ?_⟩
  · simp only [capacity] at hsize
    split
    next hroom =>
      -- nobody was refused yet
      have hall : ((empty limit).afterRequests past).size = past.length := by omega
      rw [assign_of_room (by omega), hall]
    next hfull => exact assign_of_full (by omega) signature
  · rw [signature?_eq_getElem?]
    split
    next hrange => rw [signatures_afterRequests_empty, List.getElem?_take_of_lt (by omega)]
    next => rfl
  · obtain ⟨⟨hlow, hhigh⟩, -⟩ := hgiven signature tag hok
    exact classBits_of_tag (by omega) (by omega)

/-- The last tag below a limit goes to an empty signature. -/
theorem tags_lead_back_to_nothing :
    let tags := (empty 3).afterRequests ["La;"]
    (tags.assign "").1 = .ok 2 ∧ (3 : Int) ≤ classTagLimit ∧
      (tags.assign "").2.signature? 2 = some "" ∧ classBits 2 = 2 ∧
      (tags.assign "").2.assign "La;" =
        (.error (.tagSpaceExhausted 2), (tags.assign "").2) := by
  intro tags
  have hok : (tags.assign "").1 = .ok 2 := rfl
  have hlimit : (3 : Int) ≤ classTagLimit := by decide
  have hlead := tags_lead_back 3 ["La;"]
  exact ⟨hok, hlimit, (hlead.given "" 2 hok).2, hlead.fits hlimit "" 2 hok,
    (tags_lead_back 3 ["La;", ""]).next "La;"⟩

end ExhaustionGuard.Heap.ClassTags
