import Astrolabe.Unit.Display
import Astrolabe.Proofs.Number.Magnitude

/-!
How far the units for display reach. A quantity that fits no unit for display is shown in the first,
where it may be beyond the range of doubles. Conversions keep the order of magnitudes, so that there
is one limit for a unit, and it is found by converting the limit and the double before it.
-/

namespace Astrolabe.Unit

open Binary64

/-! Conversions. -/

/-- The rules by which numbers of a unit are converted to another one. -/
def rules? (source target : String) : Option (Rule Float × Rule Float) :=
  if sameName source target then none
  else
    match rule? source, rule? target with
    | some a, some b => if a.compatible b then some (a, b) else none
    | _, _ => none

theorem convert_of_rules? {source target : String} {a b : Rule Float}
    (h : rules? source target = some (a, b)) (x : Float) :
    convert x source target = some (a.convert b x) := by
  unfold rules? at h
  unfold convert convertBy
  split at h
  next => cases h
  next different =>
    rw [if_neg different]
    split at h
    next found found' =>
      split at h
      next compatible =>
        cases h
        rw [found, found']
        exact if_pos compatible
      next => cases h
    next => cases h

/-- Whether a unit is a multiple of the reference unit. -/
def Rule.scales (r : Rule Float) : Bool :=
  toRat? r.offset == some 0 && (toRat? r.factor).any (· ≠ 0)

theorem Rule.scales_iff {r : Rule Float} :
    r.scales = true ↔ toRat? r.offset = some 0 ∧ ∃ c, toRat? r.factor = some c ∧ c ≠ 0 := by
  simp [scales, Option.any_eq_true]

/-- Conversion between multiples of a unit keeps the order of magnitudes. -/
theorem Rule.convert_within {a b : Rule Float} (ha : a.scales = true) (hb : b.scales = true)
    {x y : Float} (h : Within x y) : Within (a.convert b x) (a.convert b y) := by
  obtain ⟨offset, c, factor, -⟩ := scales_iff.mp ha
  obtain ⟨offset', d, factor', nonzero⟩ := scales_iff.mp hb
  exact (((h.mul factor).add offset).sub offset').div factor' nonzero

/-- What no number up to a given magnitude exceeds in another unit. -/
def Rule.reach (a b : Rule Float) (y : Float) : Float :=
  (y * a.factor + a.offset + b.offset) / b.factor

def isNonneg (x : Float) : Bool := (toRat? x).any (0 ≤ ·)

theorem isNonneg_iff {x : Float} : isNonneg x = true ↔ ∃ p, toRat? x = some p ∧ 0 ≤ p := by
  simp [isNonneg, Option.any_eq_true]

theorem isFinite_of_isNonneg {x : Float} (h : isNonneg x = true) : x.isFinite = true :=
  isFinite_iff.mpr ((isNonneg_iff.mp h).imp fun _ => And.left)

/-- Whether all numbers up to a given magnitude stay finite in another unit. -/
def Rule.covers (a b : Rule Float) (y : Float) : Bool :=
  a.scales && isNonneg (y * a.factor + a.offset) && isNonneg b.offset &&
    (toRat? b.factor).any (· ≠ 0) && (a.reach b y).isFinite

theorem Rule.convert_isFinite {a b : Rule Float} {x y : Float} (covered : a.covers b y = true)
    (h : Within x y) : (a.convert b x).isFinite = true := by
  simp only [covers, isNonneg, Bool.and_eq_true, Option.any_eq_true, decide_eq_true_eq] at covered
  obtain ⟨⟨⟨⟨scales, r, sum, nonneg⟩, d, offset', nonneg'⟩, q, factor', nonzero⟩, finite⟩ := covered
  obtain ⟨offset, c, factor, -⟩ := scales_iff.mp scales
  have raised := (h.mul factor).add offset
  have shifted := raised.sub_add (fun r' sum' => by cases sum.symm.trans sum'; exact nonneg)
    offset' nonneg'
  exact (shifted.div factor' nonzero).isFinite finite

/-! The first unit for display, and the others. -/

/-- A quantity is shown in a target that it fits, or in the first one. -/
theorem display?_cases {x : Float} {name : String} {shown : Shown Float}
    (h : display? x name = some shown) :
    (∃ target ∈ targets name, convert x name target.unit = some shown.value ∧
        shown.value.abs ≤ target.high) ∨
      ∃ first, (targets name).head? = some first ∧
        convert x name first.unit = some shown.value := by
  unfold display? displayBy? at h
  split at h
  next s fits =>
    cases h
    obtain ⟨target, mem, fit⟩ := List.exists_of_findSome?_eq_some fits
    unfold Target.fit? at fit
    split at fit
    next y converted =>
      split at fit
      next natural =>
        cases fit
        rw [Bool.and_eq_true, decide_eq_true_eq, decide_eq_true_eq] at natural
        exact .inl ⟨target, mem, converted, natural.2⟩
      next => cases fit
    next => cases fit
  next =>
    split at h
    next =>
      obtain ⟨first, head, h⟩ := Option.bind_eq_some_iff.mp h
      obtain ⟨y, converted, h⟩ := Option.bind_eq_some_iff.mp h
      cases h
      exact .inr ⟨first, head, converted⟩
    next => cases h

/-- Whether the first unit for display has room for all numbers up to a given magnitude. -/
def coversUpTo (name : String) (y : Float) : Bool :=
  (targets name).all (fun target => isNonneg target.high) &&
    (targets name).head?.all fun first =>
      (rules? name first.unit).any fun (a, b) => a.covers b y

theorem isFinite_of_coversUpTo {name : String} {x y : Float} (covered : coversUpTo name y = true)
    (within : Within x y) {shown : Shown Float} (h : display? x name = some shown) :
    shown.value.isFinite = true := by
  rw [coversUpTo, Bool.and_eq_true, List.all_eq_true] at covered
  obtain ⟨target, mem, -, le⟩ | ⟨first, head, converted⟩ := display?_cases h
  · exact isFinite_of_abs_le (isFinite_of_isNonneg (covered.1 target mem)) le
  · have room := covered.2
    rw [head, Option.all_some, Option.any_eq_true] at room
    obtain ⟨⟨a, b⟩, rules, room⟩ := room
    have value := Option.some.inj ((convert_of_rules? rules x).symm.trans converted)
    exact value ▸ Rule.convert_isFinite room within

/-- Whether a number is too large for all units for display, and infinite in the first. -/
def exceedsAt (name : String) (y : Float) : Bool :=
  (targets name).all (fun target =>
    (rules? name target.unit).any fun (a, b) =>
      a.scales && b.scales && isNonneg target.high &&
        !decide ((a.convert b y).abs ≤ target.high)) &&
    (targets name).head?.any fun first =>
      (rules? name first.unit).any fun (a, b) => !(a.convert b y).isFinite

/-- A number that exceeds a target still does so where it grows. -/
theorem not_abs_convert_le {a b : Rule Float} {x y high : Float} (ha : a.scales = true)
    (hb : b.scales = true) (nonneg : isNonneg high = true)
    (exceeds : ¬(a.convert b y).abs ≤ high) (within : Within y x) :
    ¬(a.convert b x).abs ≤ high := by
  intro le
  obtain ⟨q, hq, nonneg⟩ := isNonneg_iff.mp nonneg
  obtain ⟨r, hx⟩ := isFinite_iff.mp (isFinite_of_abs_le (isFinite_iff.mpr ⟨q, hq⟩) le)
  obtain ⟨p, hy, smaller⟩ := Rule.convert_within ha hb within r hx
  rw [abs_le_iff hx hq nonneg] at le
  exact exceeds ((abs_le_iff hy hq nonneg).mpr (smaller.trans le))

theorem not_isFinite_of_exceedsAt {name : String} {x y : Float} (exceeds : exceedsAt name y = true)
    (within : Within y x) {shown : Shown Float} (h : display? x name = some shown) :
    ¬shown.value.isFinite = true := by
  rw [exceedsAt, Bool.and_eq_true, List.all_eq_true] at exceeds
  have beyond (target) (mem : target ∈ targets name) :
      ∃ a b, rules? name target.unit = some (a, b) ∧
        a.scales = true ∧ b.scales = true ∧ ¬(a.convert b x).abs ≤ target.high := by
    have here := exceeds.1 target mem
    simp only [Option.any_eq_true, Bool.and_eq_true, Bool.not_eq_true', decide_eq_false_iff_not,
      Prod.exists] at here
    obtain ⟨a, b, rules, ⟨⟨ha, hb⟩, nonneg⟩, exceeds⟩ := here
    exact ⟨a, b, rules, ha, hb, not_abs_convert_le ha hb nonneg exceeds within⟩
  obtain ⟨target, mem, converted, le⟩ | ⟨first, head, converted⟩ := display?_cases h
  · obtain ⟨a, b, rules, -, -, above⟩ := beyond target mem
    have value := Option.some.inj ((convert_of_rules? rules x).symm.trans converted)
    exact absurd le (value ▸ above)
  · obtain ⟨a, b, rules, ha, hb, -⟩ := beyond first (List.mem_of_mem_head? head)
    have value := Option.some.inj ((convert_of_rules? rules x).symm.trans converted)
    have infinite := exceeds.2
    simp only [head, rules, Option.any_some, Bool.not_eq_true'] at infinite
    intro finite
    rw [← value] at finite
    rw [(Rule.convert_within ha hb within).isFinite finite] at infinite
    cases infinite

/-! The limits. -/

/-- The units in which quantities may be beyond the range when they are shown, each with the
magnitude from which on they are. -/
def displayLimits : List (String × Float) :=
  [("meters", 1.797693134862316e299), ("radians", 3.137566414384587e306),
   ("arcseconds", 1.797693134862316e305), ("parsecs", 5.825318000201931e291),
   ("AU", 1.2016665339988742e297), ("years", 5.696112594620773e300),
   ("km/s", 1.797693134862316e305), ("W/m²", 1.797693134862316e305),
   ("J", 2.880221935778613e289), ("J/m³", 1.797693134862316e307),
   ("Tesla", 1.797693134862316e304), ("Gauss", 1.797693134862316e302)]

/-- The double before a positive one. -/
def before (x : Float) : Float := .ofBits (x.toBits - 1)

/-- Whether doubles in a unit are shown as finite below a limit, and not from there on. -/
def isLimit (name : String) (limit : Float) : Bool :=
  coversUpTo name (before limit) && exceedsAt name limit &&
    match split? (before limit) with
    | some d =>
      !d.negative && 0 < d.mantissa &&
        split? limit == some { d with mantissa := d.mantissa + 1 }
    | none => false

/-- Whether the limit of a unit, or that it has none, is as the table says. -/
def limitHolds (name : String) : Bool :=
  match displayLimits.lookup name with
  | some limit => isLimit name limit
  | none => coversUpTo name greatest

theorem consecutive_of_isLimit {name : String} {limit : Float} (h : isLimit name limit = true) :
    coversUpTo name (before limit) = true ∧ exceedsAt name limit = true ∧
      Consecutive (before limit) limit := by
  simp only [isLimit, Bool.and_eq_true] at h
  obtain ⟨⟨covers, exceeds⟩, consecutive⟩ := h
  refine ⟨covers, exceeds, ?_⟩
  split at consecutive
  next d split =>
    obtain ⟨negative, m, e⟩ := d
    simp only [Bool.and_eq_true, Bool.not_eq_true', decide_eq_true_eq, beq_iff_eq] at consecutive
    obtain ⟨⟨rfl, pos⟩, next⟩ := consecutive
    exact ⟨m, e, pos, split, next⟩
  next => cases consecutive

/-- A finite quantity is shown as a finite number just below the limit of its unit. -/
theorem display?_isFinite_iff {name : String} (h : limitHolds name = true) {x : Float}
    (finite : x.isFinite = true) {shown : Shown Float} (display : display? x name = some shown) :
    shown.value.isFinite = true ↔
      ∀ limit, displayLimits.lookup name = some limit → x.abs < limit := by
  unfold limitHolds at h
  cases limited : displayLimits.lookup name with
  | none =>
      rw [limited] at h
      exact iff_of_true (isFinite_of_coversUpTo h (within_greatest finite) display) nofun
  | some limit =>
      rw [limited] at h
      obtain ⟨covers, exceeds, consecutive⟩ := consecutive_of_isLimit h
      simp only [Option.some.injEq, forall_eq']
      constructor
      · intro shows
        by_contra beyond
        obtain ⟨p, hx⟩ := isFinite_iff.mp finite
        obtain ⟨q, hq, nonneg⟩ := consecutive.toRat?_right
        rw [abs_lt_iff hx hq nonneg, not_lt] at beyond
        refine not_isFinite_of_exceedsAt exceeds ?_ display shows
        exact within_of_abs_le hq hx ((abs_of_nonneg nonneg).trans_le beyond)
      · intro below
        exact isFinite_of_coversUpTo covers (consecutive.within finite below) display

end Astrolabe.Unit
