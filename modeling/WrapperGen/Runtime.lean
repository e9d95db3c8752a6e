import WrapperGen.Text

/-!
# The scripting runtime

The names under which generated code reaches the runtime that it is written for.
-/

namespace WrapperGen.Runtime

/-- The package of the runtime. -/
def package : Text := "ugo"

/-- What a name of the runtime is qualified with outside of its package. -/
def qualifier : Text := "ugo."

/-- The path that the runtime is imported by. -/
def importPath : Text := "github.com/ozanh/ugo"

/-- The type of a value that needs no conversion. -/
def objectType : Text := "ugo.Object"

end WrapperGen.Runtime
