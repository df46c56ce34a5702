import QueryOptions.Proofs.Handles
import QueryOptions.Proofs.Scan

/-!
# QueryOptions.Proofs.PageBound

How far a largest size bounds the documents of a collection. The lesser one of the largest size and
the size in force is the limit of the query, whatever page there is. A size above zero stays within
the bound. A size that is zero or negative is always the lesser one, and it is taken for no limit at
all, so it lifts the bound.

* `Pagination.look_ok`: the limit of a page is its size within the bound;
* `Documents.count_of_limit`: how many rows such a limit counts for;
* `Slice.length_take_le`, `Slice.take_of_no_limit`: how many rows are taken then;
* `Registry.filter_page`: the documents of a call on a class with a largest size.
-/

namespace QueryOptions

/-! ## Numbers -/

namespace Decimal.Fraction

variable {f : Fraction} {m : Int}

theorem twoTo_pos (n : Nat) : (0 : Int) < twoTo n := Int.natCast_pos.mpr (Nat.pow_pos (by decide))

/-- A number that is not above zero is below every number that is. -/
theorem compareInt_of_nonpos (hm : 0 < m) (hs : f.signed ≤ 0) : f.compareInt m = .lt := by
  unfold compareInt
  split
  · refine Int.compare_eq_lt.mpr (Int.lt_of_le_of_lt ?_ hm)
    exact Int.mul_nonpos_of_nonpos_of_nonneg hs (Int.le_of_lt (twoTo_pos _))
  · exact Int.compare_eq_lt.mpr (Int.lt_of_le_of_lt hs (Int.mul_pos hm (twoTo_pos _)))

theorem truncate_of_nonneg (h : 0 ≤ f.signed) :
    f.truncate = if 0 ≤ f.exponent then f.signed * twoTo f.exponent.toNat
      else f.signed / twoTo (-f.exponent).toNat := by
  obtain ⟨negative, mantissa, exponent⟩ := f
  have hz : negative = true → mantissa = 0 := by
    rintro rfl
    simp only [signed, if_true] at h
    omega
  cases negative with
  | false => by_cases he : 0 ≤ exponent <;> simp [truncate, signed, he]
  | true => simp [truncate, signed, hz rfl]

theorem truncate_nonneg (h : 0 ≤ f.signed) : 0 ≤ f.truncate := by
  rw [truncate_of_nonneg h]
  split
  · exact Int.mul_nonneg h (Int.le_of_lt (twoTo_pos _))
  · exact Int.ediv_nonneg h (Int.le_of_lt (twoTo_pos _))

theorem truncate_nonpos (h : f.signed < 0) : f.truncate ≤ 0 := by
  cases hn : f.negative with
  | false =>
    simp only [signed, hn, Bool.false_eq_true, if_false] at h
    omega
  | true =>
    simp only [truncate, hn, if_true]
    omega

/-- The whole part of a number that is below a whole number above zero. -/
theorem truncate_le (hm : 0 < m) (h : f.compareInt m = .lt) : f.truncate ≤ m := by
  by_cases hs : f.signed < 0
  · have := truncate_nonpos hs
    omega
  · rw [truncate_of_nonneg (Int.not_lt.mp hs)]
    unfold compareInt at h
    split at h
    · rename_i he
      rw [if_pos he]
      exact Int.le_of_lt (Int.compare_eq_lt.mp h)
    · rename_i he
      rw [if_neg he]
      exact Int.le_of_lt (Int.ediv_lt_of_lt_mul (twoTo_pos _) (Int.compare_eq_lt.mp h))

end Decimal.Fraction

/-! ## Pages -/

namespace Pagination

def sizeAsked (v : Value) : Value := (v.dict?.map fun entries => Dict.get entries "size").getD .null

/-- The size that options ask for, or the default one. -/
def sizeInForce (settings options : Dict) : Value :=
  (sizeAsked (options.get SectionName.pagination.text)).orElse
    (Settings.valueOf settings "default_size" (.int 30))

theorem settle_ok {settings : PageSettings} {page size : Value} {read : Option Page}
    (h : settle settings page size = ⟨read, none⟩) :
    ∃ p, read = some p ∧
      bounded settings.maxSize (size.orElse settings.defaultSize) = .ok p.limit := by
  unfold settle at h
  dsimp only at h
  split at h
  · cases h
  · rename_i limit hl
    split at h
    · cases h
    · cases h
      exact ⟨_, rfl, hl⟩

/-- The limit of a page that `look` accepts is the size in force, within the largest one. -/
theorem look_ok {settings : PageSettings} {v : Value} {read : Option Page}
    (h : look settings v = ⟨read, none⟩) :
    ∃ p, read = some p ∧ bounded settings.maxSize ((sizeAsked v).orElse settings.defaultSize)
      = .ok p.limit := by
  unfold look at h
  split at h
  · exact settle_ok h
  · dsimp only at h
    split at h
    · cases h
    · split at h
      · cases h
      · exact settle_ok h
  · cases h

end Pagination

namespace Value

/-- The lesser of two numbers is the second one just if it is below the first one. -/
theorem lesser_ok {a b limit : Value} (h : lesser a b = .ok limit) :
    b.numeric?.isSome = true ∧
      ((compareNumbers b a = some .lt ∧ limit = b) ∨
        (compareNumbers b a ≠ some .lt ∧ limit = a)) := by
  unfold lesser less at h
  cases hb : b.numeric? with
  | none => simp [hb] at h
  | some x =>
    cases ha : a.numeric? with
    | none => simp [hb, ha] at h
    | some y =>
      simp only [hb, ha] at h
      split at h
      · cases h
      · rename_i hl
        cases h
        exact ⟨rfl, .inl ⟨by simpa using hl, rfl⟩⟩
      · rename_i hl
        cases h
        exact ⟨rfl, .inr ⟨by simpa using hl, rfl⟩⟩

end Value

namespace Store
namespace Documents

variable {m : Int}

/-- Whether a size is a bound. One that is absent, zero included, or counts for a negative number
is none. -/
def isBounding (size : Value) : Bool :=
  match countOf size with
  | .ok none => false
  | .ok (some n) => 0 ≤ n
  | .error _ => true

/-- A whole number is a bound just if it is above zero. -/
theorem isBounding_int (k : Int) : isBounding (.int k) = decide (0 < k) := by
  by_cases hk : k = 0
  · subst hk
    rfl
  · simp only [isBounding, countOf, Value.isFalsy, beq_eq_false_iff_ne.mpr hk, wholeCount,
      Except.map, Bool.false_eq_true, if_false, decide_eq_decide]
    omega

/-- A size below the largest size counts for no more. -/
theorem count_le {size : Value} {n : Int} (hm : 0 < m)
    (hl : Value.compareNumbers size (.int m) = some .lt) (hc : countOf size = .ok (some n)) :
    n ≤ m := by
  unfold countOf at hc
  split at hc
  · cases hc
  · obtain ⟨k, hk, heq⟩ := map_eq_ok_iff.mp hc
    cases heq
    cases size with
    | bool b =>
      cases hk
      split <;> omega
    | int k =>
      cases hk
      exact Int.le_of_lt (Int.compare_eq_lt.mp (Option.some.inj hl))
    | float x =>
      change Decimal.compareDoubleInt x m = some .lt at hl
      unfold Decimal.compareDoubleInt at hl
      unfold wholeCount at hk
      cases hx : Decimal.readDouble x with
      | finite f =>
        simp only [hx] at hl hk
        cases hk
        exact Decimal.Fraction.truncate_le hm (Option.some.inj hl)
      | infinite negative => simp [hx] at hk
      | undefined => simp [hx] at hk
    | _ => cases hl

/-- A size that is no bound is below every largest size. -/
theorem below_of_not_bounding {size : Value} (hm : 0 < m) (hn : size.numeric?.isSome = true)
    (hb : isBounding size = false) : Value.compareNumbers size (.int m) = some .lt := by
  unfold isBounding countOf at hb
  cases size with
  | bool b =>
    cases b with
    | false => exact congrArg some (Int.compare_eq_lt.mpr hm)
    | true => simp [Value.isFalsy, wholeCount, Except.map] at hb
  | int k =>
    refine congrArg some (Int.compare_eq_lt.mpr ?_)
    by_cases hk : k = 0
    · omega
    · simp [Value.isFalsy, hk, wholeCount, Except.map] at hb
      omega
  | float x =>
    show Decimal.compareDoubleInt x m = some .lt
    unfold Decimal.compareDoubleInt
    simp only [Value.isFalsy, Value.isZeroDouble, wholeCount] at hb
    cases hx : Decimal.readDouble x with
    | finite f =>
      refine congrArg some (Decimal.Fraction.compareInt_of_nonpos hm (Int.not_lt.mp fun hs => ?_))
      have hnonneg := Decimal.Fraction.truncate_nonneg (Int.le_of_lt hs)
      have hmantissa : f.mantissa ≠ 0 := by
        intro hz
        simp [Decimal.Fraction.signed, hz] at hs
      simp [hx, hmantissa, Except.map, hnonneg] at hb
    | infinite negative => simp [hx, Except.map] at hb
    | undefined => simp [hx, Except.map] at hb
  | _ => cases hn

/-- What the limit of a page counts for: no more than the largest size, unless the size is no
bound. -/
theorem count_of_limit {size limit : Value} {count : Option Int} (hm : 0 < m)
    (h : Pagination.bounded (.int m) size = .ok limit) (hc : countOf limit = .ok count) :
    (isBounding size = true → ∃ n, count = some n ∧ 0 ≤ n ∧ n ≤ m) ∧
      (isBounding size = false → count = none ∨ ∃ n < 0, count = some n) := by
  have hpositive : (Value.int m).isFalsy = false := by simp [Value.isFalsy]; omega
  unfold Pagination.bounded at h
  rw [hpositive] at h
  obtain ⟨hnumber, ⟨hl, rfl⟩ | ⟨hl, rfl⟩⟩ := Value.lesser_ok h
  · unfold isBounding
    rw [hc]
    cases count with
    | none => simp
    | some n =>
      have hle := count_le hm hl hc
      simp only [decide_eq_true_eq, decide_eq_false_iff_not, Int.not_le]
      exact ⟨fun hn => ⟨n, rfl, hn, hle⟩, fun hn => .inr ⟨n, hn, rfl⟩⟩
  · refine ⟨fun _ => ?_, fun hb => absurd (below_of_not_bounding hm hnumber hb) hl⟩
    unfold countOf at hc
    rw [hpositive] at hc
    cases hc
    exact ⟨m, rfl, Int.le_of_lt hm, Int.le_refl m⟩

/-! ## Running -/

def ordered (q : Documents) (db : Database) : List Row :=
  sortRows q.order ((db.rowsOf q.model.shape.table).filter fun row => q.condition.selects row)

theorem limit_of_slice {q : Documents} {slice : Slice} (h : q.slice = .ok slice) :
    countOf q.limit = .ok slice.limit := by
  unfold Documents.slice at h
  split at h
  · cases h
  · obtain ⟨limit, hl, rfl⟩ := map_eq_ok_iff.mp h
    exact hl

end Documents

namespace Slice

variable {α : Type} {s : Slice}

theorem length_take_le {n : Int} (h : s.limit = some n) (hn : 0 ≤ n) (rows : List α) :
    ((s.take rows).length : Int) ≤ n := by
  have hneg : ¬ n < 0 := by omega
  simp only [take, h, hneg, if_false, List.length_take]
  omega

/-- A limit that is absent or negative cuts nothing off. -/
theorem take_of_no_limit (h : s.limit = none ∨ ∃ n < 0, s.limit = some n) (rows : List α) :
    s.take rows = rows.drop (s.skip.getD 0).toNat := by
  rcases h with h | ⟨n, hn, h⟩
  · simp only [take, h]
  · simp only [take, h, hn, if_true]

end Slice
end Store

/-! ## Settings -/

theorem Query.pagination_of_new {library : Library} {model : String} {settings : Dict} {q : Query}
    (h : Query.new library model (.dict settings) = .ok q) :
    Pagination.new
      ⟨Settings.valueOf settings "default_page" (.int 1),
        Settings.valueOf settings "default_size" (.int 30),
        Settings.valueOf settings "max_size" .null⟩ = .ok q.pagination := by
  have hmade := (Query.new_ok_iff (Value.orElse_dict settings)).mp h
  exact hmade.pagination

/-- A largest size of a new section is positive. -/
theorem Pagination.positive_of_new {settings : PageSettings} {m : Int} {p : Pagination}
    (hm : settings.maxSize = .int m) (h : Pagination.new settings = .ok p) :
    0 < m ∧ p.settings = settings := by
  unfold Pagination.new at h
  rw [hm] at h
  dsimp only at h
  split at h
  · cases h
  · rename_i hl
    cases h
    refine ⟨?_, rfl⟩
    simpa [Value.less, Value.numeric?, Value.compareNumbers, Value.int?, Int.compare_eq_lt] using hl
  · cases h

/-! ## Calls on a class -/

namespace Store.Registry

/-- The documents of a call on a class with a largest size. There are no more of them than that, as
long as the size in force is a bound. Otherwise no row is left out but those before the page. -/
theorem filter_page {watched awaited : Bool} {library : Library} {c : ModelClass}
    {r r' : Registry} {settings options : Dict} {q : Query} {m : Int} {d : Documents}
    {result : Result}
    (hconfigure : r.configure library c.name (.dict settings) = (r', .ok q))
    (hmax : settings.get? (.text "max_size") = some (.int m))
    (hcall : (r'.enter watched library c .filter ⟨[.dict options], []⟩).outcome = .ok (.handle d))
    (hrun : (d.execute awaited).2 = .ok result) :
    ∃ session slice documents, d.session = some session ∧ d.slice = .ok slice ∧
      result = .list documents ∧
      (Documents.isBounding (Pagination.sizeInForce settings options) = true →
        (documents.length : Int) ≤ m) ∧
      (Documents.isBounding (Pagination.sizeInForce settings options) = false →
        documents = ((d.ordered session.database).drop (slice.skip.getD 0).toNat).map
          (d.document session.database)) := by
  obtain ⟨hnew, hquery⟩ := query_configure hconfigure
  have hpages := Query.pagination_of_new hnew
  obtain ⟨hm, hsettings⟩ := Pagination.positive_of_new
    (by simp [Settings.valueOf, hmax] : (⟨_, _, _⟩ : PageSettings).maxSize = .int m) hpages
  obtain ⟨htake, hhandle⟩ := enter_ok hquery hcall
  obtain ⟨x, hx, hstate⟩ := Query.take_collection rfl htake
  obtain ⟨compiled, hcompile, hprepare⟩ := Query.handle_of_ok hhandle
  rw [hstate] at hcompile
  obtain ⟨criteria, projection, -, -, rfl⟩ := Query.compile_collection rfl hcompile
  obtain ⟨-, -, hsingle, -, hlimit, -⟩ := Documents.prepare_collection rfl hprepare
  obtain ⟨session, slice, rows, hsession, hslice, hrows, rfl⟩ := Documents.execute_ok hsingle hrun
  obtain rfl : rows = slice.take (d.ordered session.database) := Documents.rows_of_ok hrows
  have hcount := Documents.limit_of_slice hslice
  rw [hlimit] at hcount
  obtain ⟨page, hpage, hbounded⟩ := Pagination.look_ok hx.page
  replace hcount : Documents.countOf page.limit = .ok slice.limit := by
    rw [← hcount]
    show _ = Documents.countOf (x.page.getD {}).limit
    rw [hpage]
    rfl
  have hdefaults : Settings.valueOf settings "max_size" .null = .int m := by
    rw [Settings.valueOf, hmax]
    rfl
  rw [hsettings, hdefaults] at hbounded
  change Pagination.bounded (.int m) (Pagination.sizeInForce settings options) = _ at hbounded
  obtain ⟨hbound, hnone⟩ := Documents.count_of_limit hm hbounded hcount
  refine ⟨session, slice, _, hsession, hslice, rfl, fun hb => ?_, fun hb => ?_⟩
  · obtain ⟨n, hn, h0, hle⟩ := hbound hb
    have hlength := Slice.length_take_le hn h0 (d.ordered session.database)
    rw [List.length_map]
    omega
  · rw [Slice.take_of_no_limit (hnone hb)]

def threeAtMost : Dict := [(.text "max_size", .int 3)]

def sizeOptions (size : Int) : Dict :=
  [(.text "pagination", .dict [(.text "size", .int size)])]

def threeAtMostQuery : Query :=
  { model := personClass.name
    keeper := .ofSections threeAtMost
    fields := { settings := [] }
    embed := .new
    sorting := .new
    filters := { settings := ⟨Sample.library, []⟩ }
    pagination := { settings := { maxSize := .int 3 } } }

theorem threeAtMost_configure :
    Sample.registry.configure Sample.library personClass.name (.dict threeAtMost)
      = ((Sample.registry.keep personClass.name threeAtMostQuery).1, .ok threeAtMostQuery) := rfl

/-- A size above the largest one. -/
theorem sizeTen_page :
    ∃ r q d documents,
      Sample.registry.configure Sample.library personClass.name (.dict threeAtMost) = (r, .ok q) ∧
      (r.enter false Sample.library personClass .filter ⟨[.dict (sizeOptions 10)], []⟩).outcome
        = .ok (.handle d) ∧
      (d.execute false).2 = .ok (.list documents) ∧ (documents.length : Int) ≤ 3 := by
  have hbound {r : Registry} {q : Query} {d : Documents} {documents : List Document}
      (hconfigure : Sample.registry.configure Sample.library personClass.name (.dict threeAtMost)
        = (r, .ok q))
      (hcall : (r.enter false Sample.library personClass .filter
        ⟨[.dict (sizeOptions 10)], []⟩).outcome = .ok (.handle d))
      (hrun : (d.execute false).2 = .ok (.list documents)) : (documents.length : Int) ≤ 3 := by
    obtain ⟨_, _, _, -, -, heq, hle, -⟩ := filter_page hconfigure rfl hcall hrun
    cases heq
    exact hle (Documents.isBounding_int 10)
  have hcall := (enter_eq false (query_configure threeAtMost_configure).2 .filter
    ⟨[.dict (sizeOptions 10)], []⟩).2
  exact ⟨_, _, _, _, threeAtMost_configure, hcall.trans rfl, rfl,
    hbound threeAtMost_configure (hcall.trans rfl) rfl⟩

/-- A size below zero gives all fourteen persons in spite of a largest size. -/
theorem negativeSize_page :
    ∃ r q d documents,
      Sample.registry.configure Sample.library personClass.name (.dict threeAtMost) = (r, .ok q) ∧
      (r.enter false Sample.library personClass .filter ⟨[.dict (sizeOptions (-1))], []⟩).outcome
        = .ok (.handle d) ∧
      (d.execute false).2 = .ok (.list documents) ∧ documents.length = 14 := by
  have hcall := (enter_eq false (query_configure threeAtMost_configure).2 .filter
    ⟨[.dict (sizeOptions (-1))], []⟩).2
  exact ⟨_, _, _, _, threeAtMost_configure, hcall.trans rfl, rfl, rfl⟩

end Store.Registry
end QueryOptions
