import QueryOptions.Trace

/-!
# QueryOptions.Sample.Recording

A model that takes every call and has one answer for all executions. What is asked of it can be
read off the events of an action.
-/

namespace QueryOptions
namespace Sample

/-- A model that fails when it is executed, or gives a settled result. -/
def recording (failure : Option String) (result : Value) : Source Unit Value where
  acquire _ := .ok ()
  configure _ _ := .ok ()
  execute _ _ :=
    match failure with
    | some text => ([], .error (.modelFailed text))
    | none => ([], .ok result)

end Sample
end QueryOptions
