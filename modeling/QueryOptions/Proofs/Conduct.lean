import QueryOptions.Entry
import QueryOptions.Proofs.Calls

/-!
# QueryOptions.Proofs.Conduct

How calls that do everything at once go (`Conduct`). A call is refused before anything is asked of
the model, or a handle is got and configured as the options say. Then a call without a callback
gives the handle back and executes nothing, and a call with one executes the handle, last of all,
and tells the callback the outcome, once, even if the callback fails.

* `load_conducts`: options, an identifier, a callback and extra fields in their places;
* `run_conducts`: arguments of any shape;
* `enter_conduct`: the calls themselves, on a query or on a new one.
-/

namespace QueryOptions

variable {H R : Type}

/-! ## Callbacks -/

/-- Whether a value is no callback at all or one that takes an error and a result. -/
def isReceiver : Value → Bool
  | .null => true
  | .callback _ _ => true
  | _ => false

def Loading.callback : Loading → Value
  | .any arguments _ =>
    match CallShape.resolve arguments with
    | .ok shape => shape.callback
    | .error _ => .null
  | .one _ _ callback _ => callback
  | .many _ callback _ => callback

/-- The callback among the arguments of a call with more parameters, null if they are refused. -/
def Entry.callbackAmong (e : Entry) (more : List Parameter) (arguments : Arguments) : Value :=
  match e.matchWith more arguments with
  | .ok (loading, _) => loading.callback
  | .error _ => .null

/-- A callback is told the outcome of an execution. -/
def Event.told (number : Nat) : Except Fault R → Event R
  | .ok r => .answered number none (some r)
  | .error f => .answered number (some f) none

/-! ## Calls -/

def Act.calls {σ α : Type} (a : Act (Event R) σ α) : List (Event R) :=
  a.events.filter fun e => !e.isNotice

/-- How a call may go: what happens apart from messages, and what it gives back. -/
inductive Conduct (source : Source H R) (callback : Value) (asked : CompiledQuery → Prop) :
    List (Event R) → Except Fault (Reply H R) → Prop where
  /-- Nothing is asked of the model, and the callback is not called. -/
  | refused (f : Fault) : Conduct source callback asked [] (.error f)
  /-- The handle that was configured is given back. -/
  | returned {compiled : CompiledQuery} {handle : H} :
      callback = .null → asked compiled →
      (source.prepare compiled.opening compiled.steps).outcome = .ok handle →
      Conduct source callback asked compiled.calls (.ok (.handle handle))
  /-- The handle that was configured is executed, and the callback is told the outcome. -/
  | answered {compiled : CompiledQuery} {handle : H} {number : Nat} {raises : Bool} :
      callback = .callback number raises → asked compiled →
      (source.prepare compiled.opening compiled.steps).outcome = .ok handle →
      Conduct source callback asked
        (compiled.calls ++ [.executed, .told number (source.execute true handle).2])
        (if raises then .error .callbackFailed else .ok .nothing)

theorem Conduct.mono {source : Source H R} {callback : Value} {asked more : CompiledQuery → Prop}
    {calls : List (Event R)} {outcome : Except Fault (Reply H R)}
    (h : Conduct source callback asked calls outcome) (hm : ∀ c, asked c → more c) :
    Conduct source callback more calls outcome := by
  cases h with
  | refused f => exact .refused f
  | returned hc ha hh => exact .returned hc (hm _ ha) hh
  | answered hc ha hh => exact .answered hc (hm _ ha) hh

/-- A call on a query goes so; the query that it leaves behind says what was asked of the model. -/
def Act.Conducts (a : Act (Event R) Query (Reply H R)) (source : Source H R) (callback : Value) :
    Prop :=
  Conduct source callback (fun c => a.state.compile = .ok c) a.calls a.outcome

theorem filter_notices (notices : List Notice) :
    (notices.map (Event.notice (R := R))).filter (fun e => !e.isNotice) = [] := by
  simp [List.filter_eq_nil_iff, Event.isNotice]

/-- `Conducts` does not see messages: they may come before the calls. -/
theorem Act.Conducts.after {a : Act (Event R) Query (Reply H R)} {source : Source H R}
    {callback : Value} (h : a.Conducts source callback) (notices : List Notice) :
    Conducts ⟨notices.map .notice ++ a.events, a.state, a.outcome⟩ source callback := by
  show Conduct source callback _ (List.filter _ _) _
  rw [List.filter_append, filter_notices]
  exact h

theorem CompiledQuery.filter_calls (c : CompiledQuery) :
    (c.calls (R := R)).filter (fun e => !e.isNotice) = c.calls := by
  rw [List.filter_eq_self]
  intro e he
  rcases List.mem_cons.mp he with rfl | he
  · rfl
  · obtain ⟨s, -, rfl⟩ := List.mem_map.mp he
    rfl

/-- A handle that is executed for a callback tells it the outcome, whatever becomes of that. -/
theorem Source.exec_callback (source : Source H R) (number : Nat) (raises : Bool) (handle : H) :
    source.exec (.callback number raises) handle =
      ⟨.executed :: (source.execute true handle).1.map .notice
          ++ [.told number (source.execute true handle).2],
        (), if raises then .error .callbackFailed else .ok none⟩ := by
  have he : source.exec (.callback number raises) handle =
      ⟨Event.executed :: (source.execute true handle).1.map .notice
          ++ (answer (.callback number raises) (source.execute true handle).2).events,
        (), (answer (.callback number raises) (source.execute true handle).2).outcome⟩ := rfl
  rw [he]
  cases (source.execute true handle).2 <;> rfl

namespace Query

variable {source : Source H R} {callback : Value} {q : Query}

theorem handle_conduct (ha : source.Accepts) (q : Query) :
    (∃ f, q.handle source = .done () (.error f)) ∨
      ∃ compiled handle, q.compile = .ok compiled ∧
        (source.prepare compiled.opening compiled.steps).outcome = .ok handle ∧
        q.handle source = ⟨compiled.calls, (), .ok handle⟩ := by
  cases hc : q.compile with
  | error f => exact .inl ⟨f, handle_eq_error source hc⟩
  | ok compiled =>
    obtain ⟨handle, hh⟩ := ha.prepare compiled.opening compiled.steps
    refine .inr ⟨compiled, handle, rfl, hh, ?_⟩
    rw [handle_eq_prepare source hc, ← hh]
    exact congrArg (Act.mk · () _) (Source.prepare_of_ok hh)

theorem conducts_without_callback (ha : source.Accepts) (q : Query) :
    Act.Conducts ⟨(q.handle source).events, q, (q.handle source).outcome.map .handle⟩
      source .null := by
  rcases handle_conduct ha q with ⟨f, h⟩ | ⟨compiled, handle, hc, hh, h⟩
  · rw [h]
    exact .refused f
  · rw [h]
    show Conduct source .null _ (compiled.calls.filter _) _
    rw [CompiledQuery.filter_calls]
    exact .returned rfl hc hh

theorem conducts_with_callback (ha : source.Accepts) (number : Nat) (raises : Bool) (q : Query) :
    Act.Conducts ⟨(q.exec source (.callback number raises)).events, q,
      (q.exec source (.callback number raises)).outcome.map fun _ => .nothing⟩
      source (.callback number raises) := by
  unfold exec
  rcases handle_conduct ha q with ⟨f, h⟩ | ⟨compiled, handle, hc, hh, h⟩
  · rw [h]
    exact .refused f
  · rw [h, Act.andThen_ok, Source.exec_callback]
    have hcalls (outcome : Except Fault R) :
        (compiled.calls ++ (Event.executed :: (source.execute true handle).1.map .notice
            ++ [Event.told number outcome])).filter (fun e => !e.isNotice)
          = compiled.calls ++ [.executed, .told number outcome] := by
      simp only [List.filter_append, List.filter_cons, CompiledQuery.filter_calls, filter_notices]
      cases outcome <;> rfl
    show Conduct source _ _ (List.filter _ _) (Except.map _ (Except.map _ _))
    rw [hcalls]
    cases raises with
    | true => exact .answered rfl hc hh
    | false => exact .answered rfl hc hh

theorem load_conducts (ha : source.Accepts) (hr : isReceiver callback = true) (watched : Bool)
    (conditions identifier extra : Value) (q : Query) :
    (q.load watched source conditions identifier callback extra).Conducts source callback := by
  unfold load
  dsimp only
  split
  · exact .refused _
  · rename_i options _
    generalize q.take watched (.dict (withExtra options extra)) identifier = taken
    obtain ⟨notices, q', outcome⟩ := taken
    cases outcome with
    | error f =>
      show Conduct source callback _ (List.filter _ (notices.map .notice)) (.error f)
      rw [filter_notices]
      exact .refused f
    | ok _ =>
      cases callback with
      | null => exact (conducts_without_callback ha q').after notices
      | callback number raises => exact (conducts_with_callback ha number raises q').after notices
      | _ => cases hr

/-- Arguments of any shape: they are refused, or they give options their places. -/
theorem run_conducts (ha : source.Accepts) (watched : Bool) (loading : Loading)
    (hr : isReceiver loading.callback = true) (q : Query) :
    (q.run watched source loading).Conducts source loading.callback := by
  cases loading with
  | any arguments extra =>
    simp only [Loading.callback] at hr ⊢
    simp only [run, loadAny]
    cases hs : CallShape.resolve arguments with
    | error f => exact .refused f
    | ok shape =>
      simp only [hs] at hr
      dsimp only
      split
      · exact load_conducts ha hr watched _ _ _ q
      · exact load_conducts ha hr watched _ _ _ q
  | one identifier conditions callback extra => exact load_conducts ha hr watched _ _ _ q
  | many conditions callback extra => exact load_conducts ha hr watched _ _ _ q

/-- The parameter of a call on a new query that holds the settings. -/
def settingsParameter : Parameter := .optional "handler_settings"

/-- The options of a call on a new query come to a compiled query. -/
def ComesTo (watched : Bool) (library : Library) (model : String) (source : Source H R) (e : Entry)
    (arguments : Arguments) (compiled : CompiledQuery) : Prop :=
  ∃ (loading : Loading) (settings : Value) (q : Query),
    e.loadingWithSettings arguments = .ok (loading, settings) ∧
    Query.new library model settings = .ok q ∧
    (q.run watched source loading).state.compile = .ok compiled

/-- A call whose callback takes an error and a result, on a model that gives handles and configures
them whenever it is asked to. The query that the call is made on may have any settings and may have
been used before; a new query is made with settings of the call. -/
theorem enter_conduct (ha : source.Accepts) (watched : Bool) (e : Entry) (arguments : Arguments) :
    (∀ q : Query, isReceiver (e.callbackAmong [] arguments) = true →
      (q.enter watched source e arguments).Conducts source (e.callbackAmong [] arguments)) ∧
    ∀ (library : Library) (model : String),
      isReceiver (e.callbackAmong [settingsParameter] arguments) = true →
      Conduct source (e.callbackAmong [settingsParameter] arguments)
        (ComesTo watched library model source e arguments)
        (enterNew watched library model source e arguments).calls
        (enterNew watched library model source e arguments).outcome := by
  refine ⟨fun q hr => ?_, fun library model hr => ?_⟩
  · unfold enter Entry.loading
    unfold Entry.callbackAmong at hr ⊢
    cases hm : e.matchWith [] arguments with
    | error f => exact .refused f
    | ok m =>
      rw [hm] at hr
      exact run_conducts ha watched m.1 hr q
  · unfold Entry.callbackAmong at hr ⊢
    have hw : e.loadingWithSettings arguments
        = (e.matchWith [settingsParameter] arguments).map fun m => (m.1, m.2.headD .null) := rfl
    unfold enterNew
    cases hm : e.matchWith [settingsParameter] arguments with
    | error f =>
      rw [hw, hm]
      exact .refused f
    | ok m =>
      rw [hm] at hr hw
      rw [hw]
      dsimp only [Except.map]
      cases hq : Query.new library model (m.2.headD .null) with
      | error f => exact .refused f
      | ok q =>
        exact (run_conducts ha watched m.1 hr q).mono fun c hc => ⟨_, _, q, hw, hq, hc⟩

/-- A call for the name of a person, without a callback. -/
def documentCall : Arguments :=
  ⟨[.text "5b0e", .dict [(.text "fields", .text "name")]], []⟩

/-- A call for all persons by age, with a callback that fails. -/
def collectionCall : Arguments :=
  ⟨[.dict [(.text "sort", .list [.text "-age"])], .callback 1 true], []⟩

/-- The first call gives its handle back. The second one tells its callback once that the model
failed. -/
theorem document_and_collection_conduct :
    (∃ q, Query.new Sample.library "Person" .null = .ok q ∧
      Conduct (Sample.recording none .null) .null
        (fun c => (q.enter true (Sample.recording none .null) .filterOne documentCall).state.compile
          = .ok c)
        [.opened (.findOne (single "_id" (.text "5b0e"))), .taken (.select "name")]
        (.ok (.handle ()))) ∧
    Conduct (Sample.recording (some "no table") .null) (.callback 1 true)
      (ComesTo false Sample.library "Person" (Sample.recording (some "no table") .null) .filter
        collectionCall)
      [.opened (.find none), .taken (.sort [("age", -1)]), .taken (.limit (.int 30)),
        .taken (.skip (.int 0)), .executed, .answered 1 (some (.modelFailed "no table")) none]
      (.error .callbackFailed) := by
  have hquiet := Sample.accepts_recording none .null
  have hfailing := Sample.accepts_recording (some "no table") .null
  refine ⟨⟨_, new_null _ _, ?_⟩, ?_⟩
  · exact (enter_conduct hquiet true .filterOne documentCall).1 _ rfl
  · exact (enter_conduct hfailing false .filter collectionCall).2 _ _ rfl

end Query
end QueryOptions
