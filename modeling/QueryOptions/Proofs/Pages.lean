import QueryOptions.Proofs.Ordering
import QueryOptions.Proofs.PageBound
import QueryOptions.Proofs.SectionOrder

/-!
# QueryOptions.Proofs.Pages

The pages of a collection. Options without a page are compiled to a query; with a page in addition
they are compiled to the same query but for the rows that are cut out. The limit and the number of
rows to skip come last when a handle is configured, and nothing else looks at them. So a page is a
piece of what the handle gives without them, and the pages in a row are all of it.

* `flatMap_pageOf`: the first pages of a list in a row;
* `Pagination.look_page`: the limit and the rows before a page;
* `Query.take_paged`: options with a page are accepted when those without it are;
* `Documents.prepare_uncut`, `Documents.execute_cut`: a handle with and without limit and skip;
* `Registry.filter_pages`: the calls for the pages of a collection.
-/

namespace QueryOptions

/-! ## Pages of a list -/

section Lists

variable {α : Type}

/-- The items of a page; pages are counted from one. -/
def pageOf (size number : Nat) (items : List α) : List α :=
  (items.drop ((number - 1) * size)).take size

/-- The first pages in a row are the beginning of the list. -/
theorem flatMap_pageOf (size count : Nat) (items : List α) :
    (List.range' 1 count).flatMap (pageOf size · items) = items.take (count * size) := by
  induction count with
  | zero => simp
  | succ n ih =>
    rw [List.range'_1_concat, List.flatMap_append, ih, List.flatMap_singleton, Nat.succ_mul,
      List.take_add, pageOf, Nat.add_sub_cancel_left]

end Lists

/-! ## Limit and rows to skip -/

/-- The largest size of a page is absent or a whole number. -/
def PageSettings.HasWholeBound (settings : PageSettings) : Prop :=
  settings.maxSize = .null ∨ ∃ m, settings.maxSize = .int m

def PageSettings.capped (settings : PageSettings) (size : Nat) : Nat :=
  match settings.maxSize with
  | .int m => min m.toNat size
  | _ => size

namespace Pagination

def input (number size : Nat) : Value :=
  .dict [(.text "page", .int number), (.text "size", .int size)]

variable {settings : PageSettings} {p : Pagination} {number size : Nat}

theorem bounded_capped (hnew : Pagination.new settings = .ok p) (hmax : settings.HasWholeBound)
    (size : Nat) :
    bounded settings.maxSize (.int size) = .ok (.int (settings.capped size)) := by
  unfold PageSettings.capped
  rcases hmax with hm | ⟨m, hm⟩
  · simp [hm, bounded, Value.isFalsy]
  · obtain ⟨hpositive, -⟩ := positive_of_new hm hnew
    rw [hm]
    have hz : (Value.int m).isFalsy = false := by simp [Value.isFalsy]; omega
    simp only [bounded, hz, Value.lesser, Value.less_int, Value.compareNumbers, Value.int?]
    by_cases h : (size : Int) < m
    · have he : min m.toNat size = size := by omega
      simp [Int.compare_eq_lt.mpr h, he]
    · have he : ((min m.toNat size : Nat) : Int) = m := by omega
      have hl : (some (compare (size : Int) m) == some .lt) = false :=
        beq_eq_false_iff_ne.mpr fun hc => h (Int.compare_eq_lt.mp (Option.some.inj hc))
      rw [he, hl]
      rfl

/-- The limit of a page is its size within the largest one, and there are so many rows before it
for each page in front of it. -/
theorem look_page (hnew : Pagination.new settings = .ok p) (hmax : settings.HasWholeBound)
    (hnumber : 1 ≤ number) (hsize : 1 ≤ size) :
    ∃ page, look settings (input number size) = ⟨some page, none⟩ ∧
      page.limit = .int (settings.capped size) ∧
      page.skip = .int ((number - 1) * settings.capped size : Nat) := by
  have hn : (Value.int number).orElse settings.defaultPage = .int number :=
    Value.orElse_of_not_falsy _ (by simp [Value.isFalsy]; omega)
  have hs : (Value.int size).orElse settings.defaultSize = .int size :=
    Value.orElse_of_not_falsy _ (by simp [Value.isFalsy]; omega)
  have hbefore : ((number : Int) - 1) * (settings.capped size : Int)
      = ((number - 1) * settings.capped size : Nat) := by
    rw [Int.natCast_mul, Int.natCast_sub hnumber]
    rfl
  have hl : look settings (input number size) = settle settings (.int number) (.int size) := rfl
  refine ⟨⟨.int number, .int (settings.capped size), .int (settings.capped size),
    .int ((number - 1) * settings.capped size : Nat)⟩, ?_, rfl, rfl⟩
  rw [hl, settle, hn, hs, bounded_capped hnew hmax]
  simp only [rowsBefore, Value.pred_int, Value.times_int, hbefore]

theorem new_settings {p : Pagination} (h : Pagination.new settings = .ok p) :
    p.settings = settings := by
  unfold Pagination.new at h
  split at h
  · cases h
    rfl
  · split at h
    · cases h
    · cases h
      rfl
    · cases h

theorem capped_pos (hnew : Pagination.new settings = .ok p) (hmax : settings.HasWholeBound)
    (hsize : 1 ≤ size) : 1 ≤ settings.capped size := by
  unfold PageSettings.capped
  rcases hmax with hm | ⟨m, hm⟩
  · simpa [hm] using hsize
  · obtain ⟨hpositive, -⟩ := positive_of_new hm hnew
    rw [hm]
    dsimp only
    omega

end Pagination

/-- The pagination of a new query is a new section. -/
theorem Query.new_pagination {library : Library} {model : String} {settings : Value} {q : Query}
    (h : Query.new library model settings = .ok q) :
    Pagination.new q.pagination.settings = .ok q.pagination := by
  obtain ⟨entries, hmade⟩ := Query.made_of_new h
  have hp := hmade.pagination
  rwa [Pagination.new_settings hp]

/-! ## Options with a page -/

namespace Query

variable {options : Dict} {q : Query}

def withPage (options : Dict) (page : Value) : Dict :=
  options.put (.text SectionName.pagination.text) page

theorem unknownOptions_withPage (options : Dict) (page : Value) :
    unknownOptions (withPage options page) = unknownOptions options :=
  unknownOptions_put (by decide) page options

/-- Gives all sections of a collection but the pagination their input. -/
def giveUnpaged (options : Dict) (q : Query) : Act Notice Query Unit :=
  (((q.giveFilters options).andThen fun q _ => q.giveFields options).andThen
    fun q _ => q.giveEmbed options).andThen fun q _ => q.giveSort options

theorem giveSections_unpaged (hc : q.isCollection = true) (options : Dict) :
    q.giveSections options
      = (q.giveUnpaged options).andThen fun q _ => q.givePagination options := by
  unfold giveSections
  rw [if_pos hc]
  rfl

theorem giveUnpaged_withPage (options : Dict) (page : Value) :
    giveUnpaged (withPage options page) = giveUnpaged options := by
  have hget {t : String} (h : SectionName.pagination.text ≠ t) :
      (withPage options page).get? (.text t) = options.get? (.text t) :=
    Dict.get?_put_of_ne h page options
  have hfilters := hget (t := SectionName.filters.text) (by decide)
  have hfields := hget (t := SectionName.fields.text) (by decide)
  have hembed := hget (t := SectionName.embed.text) (by decide)
  have hsort := hget (t := SectionName.sort.text) (by decide)
  have hextra := hget (t := "extra_fields") (by decide)
  have hextra' := hget (t := "extraFields") (by decide)
  funext q
  simp only [giveUnpaged, giveFilters, giveFields, giveEmbed, giveSort, extraFields, Dict.get,
    hfilters, hfields, hembed, hsort, hextra, hextra']

/-- A section that is switched on takes a page, if it has not been given one before. -/
theorem givePagination_enabled {kept : Option Page}
    (henabled : q.keeper.isEnabled SectionName.pagination.text = true)
    (hr : q.pagination.received = none)
    (hlook : Pagination.look q.pagination.settings (options.get SectionName.pagination.text)
      = ⟨kept, none⟩) :
    q.givePagination options =
      .done
        { q with
          pagination := q.pagination.filled (options.get SectionName.pagination.text) kept }
        (.ok ()) := by
  have hrequire (hasInput : Bool) : q.requireSection .pagination hasInput = .ok () := by
    unfold requireSection Keeper.requireEnabled
    cases hasInput <;> simp [henabled]
  simp only [givePagination, hrequire, Pagination.give, Section.receive, hr, hlook]
  rfl

theorem received_of_givePagination (h : (q.givePagination options).outcome = .ok ()) :
    q.pagination.received = none := by
  unfold givePagination at h
  dsimp only at h
  split at h
  · cases h
  · unfold Pagination.give Section.receive at h
    split at h
    · cases h
    · assumption

/-- Options that are accepted for a collection are accepted with a page in addition. -/
theorem giveSections_paged {page : Value} {kept : Option Page} (hc : q.isCollection = true)
    (henabled : q.keeper.isEnabled SectionName.pagination.text = true)
    (hlook : Pagination.look q.pagination.settings page = ⟨kept, none⟩)
    (h : (q.giveSections options).outcome = .ok ()) :
    (q.giveSections (withPage options page)).outcome = .ok () ∧
      (q.giveSections (withPage options page)).state =
        { (q.giveSections options).state with
          pagination := q.pagination.filled page kept } := by
  obtain ⟨x, -, hstate⟩ := giveSections_collection hc h
  have hpage : (withPage options page).get SectionName.pagination.text = page := by
    unfold Dict.get withPage
    rw [Dict.get?_put_self]
    rfl
  rw [giveSections_unpaged hc] at h hstate ⊢
  rw [giveUnpaged_withPage, giveSections_unpaged hc, hstate]
  obtain ⟨_, hunpaged, hp, hs⟩ := Act.ok_of_andThen h
  obtain ⟨-, hfilled⟩ := givePagination_ok hp
  rw [hs, hfilled] at hstate
  obtain ⟨ho, hs⟩ := Act.andThen_of_ok hunpaged fun q _ => q.givePagination (withPage options page)
  rw [ho, hs]
  -- the sections before the pagination leave the settings as they are
  generalize (q.giveUnpaged options).state = s at hp hstate ⊢
  have hkeeper : s.keeper = q.keeper := (congrArg Query.keeper hstate :)
  have hsettings : s.pagination.settings = q.pagination.settings :=
    (congrArg (fun q => q.pagination.settings) hstate :)
  rw [givePagination_enabled (hkeeper ▸ henabled) (received_of_givePagination hp)
    (by rw [hsettings, hpage, hlook]), hpage, ← hstate]
  refine ⟨rfl, ?_⟩
  have hf : s.pagination.filled page kept = q.pagination.filled page kept := by
    unfold Section.filled
    rw [hsettings]
  exact congrArg (fun pagination => { s with pagination }) hf

theorem compile_withPagination {compiled : CompiledQuery} (hc : q.isCollection = true)
    (h : q.compile = .ok compiled) (pagination : Pagination) :
    compile { q with pagination } =
      .ok { compiled with limit := pagination.page.limit, skip := pagination.page.skip } := by
  have hi : isCollection { q with pagination } = true := hc
  obtain ⟨criteria, projection, hf, hp, rfl⟩ := compile_collection hc h
  unfold compile at h ⊢
  rw [hc] at h
  rw [hi]
  split at h
  · cases h
  · rename_i hr
    rw [if_neg hr]
    simp only [if_true, hf, hp]
    rfl

/-- Options that are accepted and compiled for a collection are accepted with a page in addition,
and compiled to the same query but for the page. -/
theorem take_paged {watched : Bool} {page : Value} {kept : Page} {compiled : CompiledQuery}
    (henabled : q.keeper.isEnabled SectionName.pagination.text = true)
    (hlook : Pagination.look q.pagination.settings page = ⟨some kept, none⟩)
    (h : (q.take watched (.dict options) .null).outcome = .ok ())
    (hcompile : (q.take watched (.dict options) .null).state.compile = .ok compiled) :
    (q.take watched (.dict (withPage options page)) .null).outcome = .ok () ∧
      (q.take watched (.dict (withPage options page)) .null).state.compile =
        .ok { compiled with limit := kept.limit, skip := kept.skip } := by
  have haim : q.aim (withPage options page) .null = q.aim options .null := by
    unfold aim Dict.get withPage
    rw [Dict.get?_put_of_ne (by decide)]
  have hv : entriesOf (.dict options) = some options := rfl
  have hw : entriesOf (.dict (withPage options page)) = some (withPage options page) := rfl
  obtain ⟨_, he, hs, hstate⟩ := take_ok h
  obtain rfl : options = _ := Option.some.inj (hv.symm.trans he)
  have hunknown := take_known hv h
  have hc : (q.aim options .null).isCollection = true := rfl
  obtain ⟨hgiven, hpaged⟩ := giveSections_paged hc henabled hlook hs
  obtain ⟨hcollection, -⟩ := giveSections_ok hs
  rw [hstate] at hcompile
  generalize ((q.aim options .null).giveSections options).state = s at hcollection hcompile hpaged
  have hcut := compile_withPagination (q := { s with isReady := true }) (hcollection.trans hc)
    hcompile (q.pagination.filled page (some kept))
  rw [take_of_some hw, unknownOptions_withPage, hunknown, haim]
  dsimp only
  obtain ⟨ho, hs⟩ := Act.andThen_of_ok hgiven fun q _ => q.finish watched
  rw [ho, hs, finish_state, hpaged]
  exact ⟨finish_ok watched ⟨_, hcut⟩, hcut⟩

/-- A call with options that are accepted, and without a callback. -/
theorem load_of_ok {H R : Type} {watched : Bool} {source : Source H R} {handle : H}
    (identifier : Value) (ht : (q.take watched (.dict options) identifier).outcome = .ok ())
    (hh : ((q.take watched (.dict options) identifier).state.handle source).outcome = .ok handle) :
    (q.load watched source (.dict options) identifier .null .null).outcome
      = .ok (.handle handle) := by
  have hgiven : ((q.take watched (.dict options) identifier).mapEvents
      (Event.notice (R := R))).outcome = .ok () := ht
  unfold load
  dsimp only [Value.isNull, Value.dict?, withExtra]
  refine (Act.andThen_of_ok hgiven _).1.trans ?_
  exact congrArg (Except.map Reply.handle) hh

end Query

namespace CompiledQuery

/-- The steps that configure the handle, without those that cut out rows. -/
def uncutSteps (c : CompiledQuery) : List Step :=
  c.selection ++ c.populations ++ c.sort.toList.map .sort

theorem steps_withCut {c : CompiledQuery} (hc : c.isCollection = true) (limit skip : Value) :
    ({ c with limit, skip } : CompiledQuery).steps
      = c.uncutSteps ++ [.limit limit, .skip skip] := by
  have hi : ({ c with limit, skip } : CompiledQuery).isCollection = true := hc
  unfold steps arrangement
  rw [if_pos hi]
  exact (List.append_assoc _ _ _).symm

end CompiledQuery

/-! ## Handles -/

namespace Store
namespace Documents

/-- A query loads other columns or relations than another one, and is the same apart from that. -/
def LoadsFrom (q d : Documents) : Prop :=
  d = { q with columns := d.columns, relations := d.relations }

def isLoading : Step → Bool
  | .select _ => true
  | .populate _ _ => true
  | _ => false

theorem take_loading {s : Step} {q d : Documents} (hs : isLoading s = true)
    (h : q.take s = .ok d) : LoadsFrom q d := by
  cases s with
  | select projection =>
    simp only [take, select] at h
    split at h
    · cases h
    · cases h; rfl
  | populate relation fields =>
    simp only [take, populate] at h
    split at h
    · cases h
    · split at h
      · cases h
      · cases h; rfl
  | _ => cases hs

variable {session : Option Session} {model : Model}

theorem configureAll_loading {steps : List Step} {q d : Documents}
    (hs : ∀ s ∈ steps, isLoading s = true)
    (h : ((source session model).configureAll steps q).outcome = .ok d) : LoadsFrom q d := by
  induction steps generalizing q with
  | nil =>
    cases h
    rfl
  | cons s rest ih =>
    obtain ⟨next, hn, hr⟩ := Source.configureAll_cons.mp h
    have hnext : LoadsFrom q next := take_loading (hs s (by simp)) hn
    have hlast : LoadsFrom next d := ih (fun t ht => hs t (List.mem_cons_of_mem _ ht)) hr
    unfold LoadsFrom at hnext hlast ⊢
    rw [hnext] at hlast
    exact hlast

/-- What `prepare` makes of the calls for a collection but those for limit and skip: they are null,
and the order is that of the spec. -/
theorem prepare_uncut {compiled : CompiledQuery} {d : Documents}
    (hc : compiled.isCollection = true)
    (h : ((source session model).prepare compiled.opening compiled.uncutSteps).outcome = .ok d) :
    ∃ condition order, orderOf model.shape (compiled.sort.getD []) = .ok order ∧
      d = { model, predicate := compiled.predicate, condition, single := false, session,
            columns := d.columns, relations := d.relations, order } := by
  unfold Source.prepare at h
  rw [find_opening hc] at h
  split at h
  · cases h
  · rename_i found hf
    obtain ⟨condition, -, rfl⟩ := find_eq_ok hf
    obtain ⟨middle, hm, hlast⟩ := Source.configureAll_append h
    have hloads : ∀ s ∈ compiled.selection ++ compiled.populations, isLoading s = true := by
      intro s hs
      rcases List.mem_append.mp hs with hs | hs
      · unfold CompiledQuery.selection at hs
        split at hs
        · cases hs
        · rw [List.mem_singleton.mp hs]
          rfl
      · obtain ⟨r, -, rfl⟩ := List.mem_map.mp hs
        rfl
    have hmiddle := configureAll_loading hloads hm
    refine ⟨condition, ?_⟩
    cases hs : compiled.sort with
    | none =>
      rw [hs] at hlast
      cases hlast
      exact ⟨[], rfl, hmiddle⟩
    | some spec =>
      rw [hs] at hlast
      obtain ⟨next, hn, hr⟩ := Source.configureAll_cons.mp hlast
      cases hr
      change middle.sort spec = .ok d at hn
      rw [hmiddle] at hn
      unfold Documents.sort at hn
      split at hn
      · cases hn
      · rename_i order ho
        cases hn
        exact ⟨order, ho, rfl⟩

/-! ## Running -/

theorem slice_uncut {q : Documents} (hl : q.limit = .null) (hs : q.skip = .null) :
    q.slice = .ok {} := by
  unfold slice
  rw [hl, hs]
  rfl

theorem countOf_nat (n : Nat) :
    countOf (.int n) = .ok (if n = 0 then none else some (n : Int)) := by
  by_cases hn : n = 0
  · subst hn
    rfl
  · simp [countOf, Value.isFalsy, hn, wholeCount, Except.map]

/-- The slice of a limit above zero and rows to skip; no rows to skip are not mentioned in it. -/
theorem slice_cut (q : Documents) {limit : Nat} (hl : 1 ≤ limit) (skip : Nat) :
    ({ q with limit := .int limit, skip := .int skip } : Documents).slice
      = .ok ⟨some limit, if skip = 0 then none else some (skip : Int)⟩ := by
  unfold slice
  simp only [countOf_nat, Nat.ne_of_gt hl, if_false]
  rfl

theorem take_cut {α : Type} (limit skip : Nat) (rows : List α) :
    (⟨some limit, if skip = 0 then none else some (skip : Int)⟩ : Slice).take rows
      = (rows.drop skip).take limit := by
  have hneg : ¬ (limit : Int) < 0 := by omega
  by_cases hs : skip = 0 <;> simp [Slice.take, hneg, hs]

/-- A slice is taken of what a query gives, if the database takes its numbers. -/
theorem rows_cut {q : Documents} {db : Database} {rows : List Row} {slice : Slice}
    (h : q.rows {} db = .ok rows) (hs : ∀ v ∈ slice.parameters, Storable v) :
    q.rows slice db = .ok (slice.take rows) := by
  rw [rows_of_sound (sound_of_rows h) hs, rows_of_ok h]
  rfl

theorem storable_int {n : Int} (h : isStorable n = true) : Storable (.int n) :=
  ⟨.integer n, by simp [Datum.ofValue, h]⟩

/-- What a query with a limit and rows to skip gives is cut out of what it gives without them. -/
theorem execute_cut {awaited : Bool} {q : Documents} {documents : List Document} {limit skip : Nat}
    (hsingle : q.single = false) (hnone : q.limit = .null ∧ q.skip = .null) (hl : 1 ≤ limit)
    (hlimit : isStorable limit = true) (hskip : isStorable skip = true)
    (h : (q.execute awaited).2 = .ok (.list documents)) :
    (({ q with limit := .int limit, skip := .int skip } : Documents).execute awaited).2
      = .ok (.list ((documents.drop skip).take limit)) := by
  obtain ⟨session, slice, rows, hsession, hslice, hrows, he⟩ := execute_ok hsingle h
  cases he
  rw [slice_uncut hnone.1 hnone.2] at hslice
  cases hslice
  have hstorable (v : Value)
      (hv : v ∈ Slice.parameters ⟨some limit, if skip = 0 then none else some (skip : Int)⟩) :
      Storable v := by
    by_cases hs : skip = 0
    · simp only [Slice.parameters, hs, if_true] at hv
      obtain rfl := List.mem_singleton.mp hv
      exact storable_int hlimit
    · simp only [Slice.parameters, hs, if_false] at hv
      rcases List.mem_pair.mp hv with rfl | rfl
      · exact storable_int hlimit
      · exact storable_int hskip
  have hr : Documents.rows { q with limit := .int limit, skip := .int skip }
      ⟨some limit, if skip = 0 then none else some (skip : Int)⟩ session.database
        = .ok ((rows.drop skip).take limit) := by
    rw [← take_cut]
    exact rows_cut hrows hstorable
  have hrun := run_list (q := { q with limit := .int limit, skip := .int skip }) hsession hsingle
    (slice_cut q hl skip)
  rw [execute_snd, hrun, hr, ← List.map_drop, ← List.map_take]
  rfl

end Documents

/-! ## Calls on a class -/

namespace Registry

/-- A call with nothing but options on a class gives a handle back, if its options are taken. -/
theorem enter_of_ok {watched : Bool} {library : Library} {c : ModelClass} {r : Registry} {q : Query}
    {options : Dict} {handle : Documents} (hq : (r.query library c.name).2 = .ok q)
    (ht : (q.take watched (.dict options) .null).outcome = .ok ())
    (hh : ((q.take watched (.dict options) .null).state.handle (r.sourceOf c)).outcome
      = .ok handle) :
    (r.enter watched library c .filter ⟨[.dict options], []⟩).outcome = .ok (.handle handle) := by
  rw [(enter_eq watched hq .filter _).2]
  -- a call without options is told apart in another way, but it is made with the same conditions
  cases options with
  | nil => exact Query.load_of_ok .null ht hh
  | cons option more => exact Query.load_of_ok .null ht hh

/-- The calls for the pages of a collection. Options are accepted, and the query that they are
compiled to gives documents when it is configured without limit and skip. Then a call with a page
in addition gives the documents of that page, the pages in a row are all documents, and the
documents are in order. -/
theorem filter_pages {watched awaited : Bool} {library : Library} {c : ModelClass} {r : Registry}
    {settings : Value} {q : Query} {options : Dict} {compiled : CompiledQuery} {d : Documents}
    {documents : List Document}
    (hquery : (r.query library c.name).2 = .ok q)
    (hnew : Query.new library c.name settings = .ok q)
    (hmax : q.pagination.settings.HasWholeBound)
    (henabled : q.keeper.isEnabled SectionName.pagination.text = true)
    (htake : (q.take watched (.dict options) .null).outcome = .ok ())
    (hcompile : (q.take watched (.dict options) .null).state.compile = .ok compiled)
    (hprepare : ((r.sourceOf c).prepare compiled.opening compiled.uncutSteps).outcome = .ok d)
    (hrun : (d.execute awaited).2 = .ok (.list documents)) :
    (∀ size, 1 ≤ size →
      (∀ number, 1 ≤ number → isStorable (q.pagination.settings.capped size) = true →
        isStorable ((number - 1) * q.pagination.settings.capped size : Nat) = true →
        ∃ handle,
          (r.enter watched library c .filter
            ⟨[.dict (Query.withPage options (Pagination.input number size))], []⟩).outcome
              = .ok (.handle handle) ∧
          (handle.execute awaited).2
            = .ok (.list (pageOf (q.pagination.settings.capped size) number documents))) ∧
      ∀ count, documents.length ≤ count * q.pagination.settings.capped size →
        (List.range' 1 count).flatMap (pageOf (q.pagination.settings.capped size) · documents)
          = documents) ∧
    ∃ (session : Session) (order : RowOrder) (rows : List Row), r.sessionOf c = some session ∧
      Documents.orderOf c.model.shape (compiled.sort.getD []) = .ok order ∧
      rows.Perm ((session.database.rowsOf c.model.shape.table).filter fun row =>
        d.condition.selects row) ∧
      rows.Pairwise order.Precedes ∧ documents = rows.map (d.document session.database) := by
  have hpagination := Query.new_pagination hnew
  have hcollection : compiled.isCollection = true := by
    obtain ⟨_, -, hstate⟩ := Query.take_collection rfl htake
    rw [Query.isCollection_of_compile hcompile, hstate]
    rfl
  obtain ⟨condition, order, horder, hd⟩ := Documents.prepare_uncut hcollection hprepare
  have hsingle : d.single = false := by rw [hd]
  have hnone : d.limit = .null ∧ d.skip = .null := by rw [hd]; exact ⟨rfl, rfl⟩
  refine ⟨fun size hsize => ?_, ?_⟩
  -- A page is cut out of what the same query gives without limit and skip.
  · have hcapped := Pagination.capped_pos hpagination hmax hsize
    refine ⟨fun number hnumber hlimit hskip => ?_, fun count hcount => ?_⟩
    · obtain ⟨page, hlook, hl, hs⟩ := Pagination.look_page hpagination hmax hnumber hsize
      obtain ⟨htaken, hcut⟩ := Query.take_paged henabled hlook htake hcompile
      have hhandle := Query.handle_eq_prepare (r.sourceOf c) hcut
      refine ⟨{ d with limit := page.limit, skip := page.skip }, enter_of_ok hquery htaken ?_, ?_⟩
      · rw [hhandle, CompiledQuery.steps_withCut hcollection]
        exact Source.prepare_of_append hprepare
      · rw [hl, hs]
        exact Documents.execute_cut hsingle hnone hcapped hlimit hskip hrun
    · rw [flatMap_pageOf, List.take_of_length_le hcount]
  -- Uncut, these are the selected rows of the table, sorted.
  · obtain ⟨session, slice, rows, hsession, hslice, hrows, he⟩ := Documents.execute_ok hsingle hrun
    cases he
    obtain rfl : {} = slice := Except.ok.inj
      ((Documents.slice_uncut hnone.1 hnone.2).symm.trans hslice)
    obtain rfl : rows = d.ordered session.database := Documents.rows_of_ok hrows
    have hmodel : d.model = c.model := by rw [hd]
    have hs : d.session = r.sessionOf c := by rw [hd]
    have ho : d.order = order := by rw [hd]
    refine ⟨session, order, _, hs.symm.trans hsession, horder, ?_, ?_, rfl⟩
    · rw [← hmodel]
      exact perm_sortRows d.order _
    · rw [← ho]
      exact pairwise_sortRows d.order _

/-- The persons up to a level, the oldest ones first. -/
def juniorOptions : Dict :=
  [(.text "filters", .list
      [.dict [(.text "key", .text "level"), (.text "operator", .text "<="),
        (.text "value", .int 4)]]),
    (.text "fields", .text "name"), (.text "sort", .list [.text "-age", .text "level"])]

/-- With at most three persons on a page, the third page of eight persons has two of them. The one
without an age is the last one. -/
theorem juniorPages :
    ∃ r q compiled d documents handle,
      Sample.registry.configure Sample.library personClass.name (.dict threeAtMost) = (r, .ok q) ∧
      (q.take false (.dict juniorOptions) .null).state.compile = .ok compiled ∧
      ((r.sourceOf personClass).prepare compiled.opening compiled.uncutSteps).outcome = .ok d ∧
      (d.execute false).2 = .ok (.list documents) ∧
      (r.enter false Sample.library personClass .filter
        ⟨[.dict (Query.withPage juniorOptions (Pagination.input 3 5))], []⟩).outcome
          = .ok (.handle handle) ∧
      (handle.execute false).2 = .ok (.list (pageOf 3 3 documents)) ∧
      (pageOf 3 3 documents).map (fun e => e.columns.lookup "name")
        = [some (.text "\u0416\u0435\u043d\u044f"), some (.text "Guest")] ∧
      (List.range' 1 3).flatMap (pageOf 3 · documents) = documents := by
  have hpages {r : Registry} {q : Query} {compiled : CompiledQuery} {d : Documents}
      {documents : List Document}
      (hconfigure : Sample.registry.configure Sample.library personClass.name (.dict threeAtMost)
        = (r, .ok q))
      (hmax : q.pagination.settings.maxSize = .int 3)
      (henabled : q.keeper.isEnabled SectionName.pagination.text = true)
      (htake : (q.take false (.dict juniorOptions) .null).outcome = .ok ())
      (hcompile : (q.take false (.dict juniorOptions) .null).state.compile = .ok compiled)
      (hprepare : ((r.sourceOf personClass).prepare compiled.opening compiled.uncutSteps).outcome
        = .ok d)
      (hrun : (d.execute false).2 = .ok (.list documents)) (hcount : documents.length = 8) :
      (∃ handle, (r.enter false Sample.library personClass .filter
        ⟨[.dict (Query.withPage juniorOptions (Pagination.input 3 5))], []⟩).outcome
          = .ok (.handle handle) ∧
        (handle.execute false).2 = .ok (.list (pageOf 3 3 documents))) ∧
      (List.range' 1 3).flatMap (pageOf 3 · documents) = documents := by
    obtain ⟨hnew, hquery⟩ := query_configure hconfigure
    obtain ⟨hall, -⟩ := filter_pages hquery hnew (.inr ⟨3, hmax⟩) henabled htake hcompile hprepare
      hrun
    obtain ⟨hpage, hflat⟩ := hall 5 (by decide)
    have hcapped : q.pagination.settings.capped 5 = 3 := by
      unfold PageSettings.capped
      rw [hmax]
      rfl
    rw [hcapped] at hpage hflat
    exact ⟨hpage 3 (by decide) (by decide) (by decide), hflat 3 (by omega)⟩
  obtain ⟨⟨handle, hcall, hexecute⟩, hflat⟩ := hpages rfl rfl rfl rfl rfl rfl rfl rfl
  exact ⟨_, _, _, _, _, handle, rfl, rfl, rfl, rfl, hcall, hexecute, rfl, hflat⟩

end Registry
end Store
end QueryOptions
