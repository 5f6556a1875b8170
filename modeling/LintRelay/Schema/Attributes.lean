import LintRelay.Text.Quoted

/-!
# Attributes

What can be read from a value by name besides its fields. Plain values have
operations and values that are derived from them; none of these can be assigned.
The members of an enumeration take any other attribute.
-/

namespace LintRelay.Schema

open LintRelay.Text

/-- The attributes of a kind of value: its operations, and what is derived from it
with the kind of that. -/
structure KindAttributes where
  operations : List String := []
  derived : List (String × String) := []
  deriving DecidableEq, Repr, Inhabited

/-- The names in a text with spaces between them. -/
def namesIn (s : String) : List String :=
  (s.toList.splitOn ' ').map String.ofList

def commonOperations : List String := namesIn <|
  "__delattr__ __dir__ __doc__ __eq__ __format__ __ge__ __getattribute__ __getstate__ __gt__ " ++
  "__hash__ __init__ __init_subclass__ __le__ __lt__ __ne__ __new__ __reduce__ __reduce_ex__ " ++
  "__repr__ __setattr__ __sizeof__ __str__ __subclasshook__"

def textOperations : List String := namesIn <|
  "capitalize casefold center count encode endswith expandtabs find format format_map index " ++
  "isalnum isalpha isascii isdecimal isdigit isidentifier islower isnumeric isprintable " ++
  "isspace istitle isupper join ljust lower lstrip maketrans partition removeprefix " ++
  "removesuffix replace rfind rindex rjust rpartition rsplit rstrip split splitlines " ++
  "startswith strip swapcase title translate upper zfill __add__ __contains__ __getitem__ " ++
  "__getnewargs__ __iter__ __len__ __mod__ __mul__ __rmod__ __rmul__"

def numberOperations : List String := namesIn <|
  "as_integer_ratio conjugate __abs__ __add__ __bool__ __ceil__ __divmod__ __float__ " ++
  "__floor__ __floordiv__ __getnewargs__ __int__ __mod__ __mul__ __neg__ __pos__ __pow__ " ++
  "__radd__ __rdivmod__ __rfloordiv__ __rmod__ __rmul__ __round__ __rpow__ __rsub__ " ++
  "__rtruediv__ __sub__ __truediv__ __trunc__"

def wholeOperations : List String := namesIn <|
  "bit_count bit_length from_bytes to_bytes __and__ __index__ __invert__ __lshift__ __or__ " ++
  "__rand__ __rlshift__ __ror__ __rrshift__ __rshift__ __rxor__ __xor__"

def listOperations : List String := namesIn <|
  "append clear copy count extend index insert pop remove reverse sort __add__ " ++
  "__class_getitem__ __contains__ __delitem__ __getitem__ __iadd__ __imul__ __iter__ __len__ " ++
  "__mul__ __reversed__ __rmul__ __setitem__"

def tupleOperations : List String := namesIn <|
  "count index __add__ __class_getitem__ __contains__ __getitem__ __getnewargs__ __iter__ " ++
  "__len__ __mul__ __rmul__"

def tableOperations : List String := namesIn <|
  "clear copy fromkeys get items keys pop popitem setdefault update values __class_getitem__ " ++
  "__contains__ __delitem__ __getitem__ __ior__ __iter__ __len__ __or__ __reversed__ __ror__ " ++
  "__setitem__"

def setOperations : List String := namesIn <|
  "add clear copy difference difference_update discard intersection intersection_update " ++
  "isdisjoint issubset issuperset pop remove symmetric_difference symmetric_difference_update " ++
  "union update __and__ __class_getitem__ __contains__ __iand__ __ior__ __isub__ __iter__ " ++
  "__ixor__ __len__ __or__ __rand__ __ror__ __rsub__ __rxor__ __sub__ __xor__"

def pathOperations : List String := namesIn <|
  "absolute as_posix as_uri chmod cwd exists expanduser glob group hardlink_to home " ++
  "is_absolute is_block_device is_char_device is_dir is_fifo is_file is_mount is_relative_to " ++
  "is_reserved is_socket is_symlink iterdir joinpath lchmod link_to lstat match mkdir open " ++
  "owner read_bytes read_text readlink relative_to rename replace resolve rglob rmdir " ++
  "samefile stat symlink_to touch unlink with_name with_stem with_suffix write_bytes " ++
  "write_text __bytes__ __enter__ __exit__ __fspath__ __module__ __rtruediv__ __slots__ " ++
  "__truediv__ _flavour _format_parsed_parts _from_parsed_parts _from_parts _make_child " ++
  "_make_child_relpath _parse_args _scandir"

/-- What every operation tells of itself. -/
def ownName : List (String × String) :=
  [("__doc__", "str"), ("__name__", "str"), ("__qualname__", "str"),
    ("__text_signature__", "str")]

/-- The attributes of a kind of plain value. -/
def attributesOf (kind : String) : KindAttributes :=
  match kind with
  | "str" => ⟨textOperations ++ commonOperations, []⟩
  | "int" | "bool" =>
    ⟨numberOperations ++ wholeOperations ++ commonOperations,
      [("real", "int"), ("imag", "int"), ("numerator", "int"), ("denominator", "int")]⟩
  | "float" =>
    ⟨["fromhex", "hex", "is_integer", "__getformat__"] ++ numberOperations ++ commonOperations,
      [("real", "float"), ("imag", "float")]⟩
  | "list" => ⟨listOperations ++ commonOperations, []⟩
  | "tuple" => ⟨tupleOperations ++ commonOperations, []⟩
  | "dict" => ⟨tableOperations ++ commonOperations, []⟩
  | "set" => ⟨setOperations ++ commonOperations, []⟩
  | "PosixPath" =>
    ⟨pathOperations ++ commonOperations,
      [("anchor", "str"), ("drive", "str"), ("name", "str"), ("parent", "PosixPath"),
        ("parents", "_PathParents"), ("parts", "tuple"), ("root", "str"), ("stem", "str"),
        ("suffix", "str"), ("suffixes", "list"), ("_cparts", "list")]⟩
  | "NoneType" => ⟨"__bool__" :: commonOperations, []⟩
  | "builtin_function_or_method" =>
    ⟨"__call__" :: commonOperations,
      ("__self__", "str") :: ownName⟩
  | "method-wrapper" => ⟨"__call__" :: commonOperations, ("__objclass__", "type") :: ownName⟩
  | "method" => ⟨"__call__" :: commonOperations, [("__doc__", "str")]⟩
  | _ => ⟨commonOperations, []⟩

/-- The attributes of a path that can be assigned, since they only keep what has
been worked out. -/
def pathSlots : List String := namesIn "_cached_cparts _drv _hash _parts _pparts _root _str"

/-- The attributes of an operation that only tell what it belongs to. -/
def ownerAttributes (kind : String) : List String :=
  match kind with
  | "method-wrapper" => ["__self__"]
  | "method" => ["__self__", "__func__"]
  | _ => []

def enumerations : List String := ["Severity", "FailurePolicy"]

def recordOperations : List String := namesIn <|
  "construct copy dict from_orm json model_construct model_copy model_dump model_dump_json " ++
  "model_json_schema model_parametrized_name model_post_init model_rebuild model_validate " ++
  "model_validate_json model_validate_strings parse_file parse_obj parse_raw schema " ++
  "schema_json update_forward_refs validate"

/-- What every record has besides its fields. -/
def recordAttributes : List (String × String) :=
  [("model_config", "dict"), ("model_fields", "dict"), ("model_computed_fields", "dict"),
    ("model_extra", "NoneType"), ("model_fields_set", "set"), ("__dict__", "dict"),
    ("__doc__", "str"), ("__module__", "str"), ("__annotations__", "dict")] ++
  recordOperations.map fun name => (name, "method")

/-- What the records of a kind have besides their fields. -/
def ownAttributes (kind : String) : List (String × String) :=
  match kind with
  | "AppConfig" => [("to_dict", "method")]
  | "Position" => [("as_tuple", "method")]
  | "Range" => [("zero", "method"), ("from_coordinates", "method"), ("is_empty", "bool")]
  | "Finding" => [("with_suggestion", "method")]
  | "RelatedInformation" | "DiagnosticRecord" => [("to_lsp", "method")]
  | "TextDocument" => [("path", "PosixPath"), ("from_path", "method")]
  | _ => []

/-- The attributes of a record that are worked out whenever they are read. -/
def recordProperties : List String := ["model_extra", "model_fields_set"]

/-- The operations with two underscores before and after their names that are called
by name like the others; the rest of them stand for operators. -/
def namedOperations (kind : String) : List String :=
  (match kind with
  | "list" => ["__getitem__"]
  | "dict" => ["__contains__", "__getitem__"]
  | "set" => ["__contains__"]
  | _ => []) ++
  namesIn ("__ceil__ __class_getitem__ __dir__ __floor__ __format__ __getformat__ " ++
    "__getnewargs__ __getstate__ __init_subclass__ __new__ __reduce__ __reduce_ex__ " ++
    "__reversed__ __round__ __sizeof__ __subclasshook__ __trunc__")

/-- The kind of an operation of a plain value. -/
def operationKind (kind name : String) : String :=
  if name = "__doc__" then if kind = "NoneType" then kind else "str"
  else if name = "__hash__" ∧ kind ∈ ["list", "dict", "set"] then "NoneType"
  else if name.startsWith "__" ∧ name ∉ namedOperations kind then "method-wrapper"
  else "builtin_function_or_method"

/-- The operations that the members of an enumeration do their own way. -/
def memberOperations : List String := namesIn <|
  "__dir__ __format__ __init__ __new__ __reduce_ex__ __repr__ __str__"

/-- The operations that paths do as every value does. -/
def pathInherited : List String := namesIn <|
  "__delattr__ __dir__ __format__ __getattribute__ __getstate__ __init__ __init_subclass__ " ++
  "__ne__ __reduce_ex__ __setattr__ __sizeof__ __subclasshook__ __doc__"

def pathOperationKind (name : String) : String :=
  if name ∈ pathInherited then operationKind "PosixPath" name
  else if name = "__module__" then "str"
  else if name = "__slots__" then "tuple"
  else if name = "__new__" then "function"
  else "method"

def memberNames (kind : String) : List String :=
  match kind with
  | "Severity" => ["ERROR", "WARNING", "INFORMATION", "HINT"]
  | "FailurePolicy" => ["KEEP_STALE", "CLEAR"]
  | _ => []

/-- The kind of an attribute of a value of a kind that is no record. -/
def attributeKind? (kind name : String) : Option String :=
  if kind ∈ enumerations then
    if name ∈ memberNames kind then some kind else
    if name = "__dict__" then some "dict" else
    if name ∈ ["value", "name", "_value_", "_name_", "__module__"] then some "str"
    else if name ∈ memberOperations then some "method"
    else if name ∈ textOperations ++ commonOperations then some (operationKind "str" name)
    else none
  else
    match (attributesOf kind).derived.find? (·.1 = name) with
    | some (_, derived) => some derived
    | none =>
      if name ∉ (attributesOf kind).operations then none
      else if kind = "PosixPath" then some (pathOperationKind name)
      else some (operationKind kind name)

end LintRelay.Schema
