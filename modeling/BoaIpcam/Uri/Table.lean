import BoaIpcam.CString

/-!
# Request URIs and the table of registered URIs

`unescape_uri` and `clean_pathname` of `util.c` turn the URI of the request line into the path
that the rest of the server works on. `http_uri_search` of `request.c` looks that path up in
the hash table made of `HttpUri`: the bucket is chosen by the bytes as they are, and inside the
bucket the names are compared without regard to case. `char` is unsigned on the device.
-/
namespace BoaIpcam

/-! ## The path of a request -/

/-- The value of a hexadecimal digit as `HEX_TO_DECIMAL` computes it for any character. -/
def hexDigit (c : UInt8) : UInt8 := if 65 ≤ c then (c &&& 0xDF) - 65 + 10 else c - 48

/-- `HEX_TO_DECIMAL`, stored in a `char`. -/
def hexToDecimal (c d : UInt8) : UInt8 := hexDigit c * 16 + hexDigit d

/-- The characters that `unescape_uri` writes, none for an escape that is cut off. The query
string and the fragment end the path. -/
def unescape : List UInt8 → Option (List UInt8)
  | [] => some []
  | 37 :: c :: d :: rest => (unescape rest).map (hexToDecimal c d :: ·)
  | 37 :: _ => none
  | 63 :: _ => some []
  | 35 :: _ => some []
  | c :: rest => (unescape rest).map (c :: ·)

/-- `unescape_uri`. An escaped NUL ends the string for those who read it. -/
def unescapeUri (uri : List UInt8) : Option (List UInt8) :=
  (unescape uri).map fun text => text.takeWhile (· ≠ 0)

/-- The loop of `clean_pathname`. After a slash it skips slashes and the names `.` and `..` in
front of a slash. -/
def cleanFrom : Bool → List UInt8 → List UInt8
  | _, [] => []
  | true, 47 :: rest => cleanFrom true rest
  | true, 46 :: 47 :: rest => cleanFrom true rest
  | true, 46 :: 46 :: 47 :: rest => cleanFrom true rest
  | _, c :: rest => c :: cleanFrom (c = 47) rest

/-- `clean_pathname`. -/
def cleanPathname (pathname : List UInt8) : List UInt8 := cleanFrom false pathname

example : cleanPathname (ascii "/a//./../b/..c") = ascii "/a/b/..c" := by decide

/-! ## The table -/

/-- An entry of `HttpUri`: its name, whether it has a handler, its authority, and of its
`uri_flag` the flags `URI_FLAG_VIRTUAL_PAGE` and `URI_FLAG_VOLATILE_FILE`. -/
structure HttpUri where
  /-- `name`. -/
  name : List UInt8
  /-- The entry has a `handler`. -/
  handler : Bool
  /-- `authority`; the higher levels have the smaller numbers. -/
  authority : Nat
  /-- `URI_FLAG_VIRTUAL_PAGE`. -/
  virtualPage : Bool
  /-- `URI_FLAG_VOLATILE_FILE`. -/
  volatileFile : Bool
deriving DecidableEq, Repr

/-- `uri_hash_cal_value`. -/
def uriHashCalValue (name : List UInt8) : UInt32 :=
  name.foldl (fun value c => value * 37 + c.toUInt32) 0

/-- The bucket of a name; there are `MAX_URI_HASH_SIZE` of them. -/
def uriBucket (name : List UInt8) : UInt32 := uriHashCalValue name % 64

/-- A bucket as `uri_hash_table_init` leaves it: each entry is put in front of those before it. -/
def uriHashTable (table : List HttpUri) (bucket : UInt32) : List HttpUri :=
  table.foldl (fun entries arg => if uriBucket arg.name = bucket then arg :: entries else entries) []

/-- `http_uri_search`. -/
def httpUriSearch (table : List HttpUri) (arg : List UInt8) : Option HttpUri :=
  (uriHashTable table (uriBucket arg)).find? fun opt => StrCaseEq opt.name arg

/-- A bucket holds the entries whose names belong to it, the last one first. -/
theorem uriHashTable_eq (table : List HttpUri) (bucket : UInt32) :
    uriHashTable table bucket =
      (table.filter fun arg => uriBucket arg.name = bucket).reverse := by
  have general : ∀ entries : List HttpUri,
      table.foldl (fun entries arg =>
          if uriBucket arg.name = bucket then arg :: entries else entries) entries =
        (table.filter fun arg => uriBucket arg.name = bucket).reverse ++ entries := by
    induction table with
    | nil => exact fun _ => rfl
    | cons arg table ih =>
      intro entries
      rw [List.foldl_cons, ih]
      by_cases here : uriBucket arg.name = bucket
      · rw [if_pos here, List.filter_cons_of_pos (by simpa using here), List.reverse_cons,
          List.append_assoc, List.singleton_append]
      · rw [if_neg here, List.filter_cons_of_neg (by simpa using here)]
  exact (general []).trans (List.append_nil _)

/-- The members of a bucket. -/
theorem mem_uriHashTable {table : List HttpUri} {bucket : UInt32} {entry : HttpUri} :
    entry ∈ uriHashTable table bucket ↔ entry ∈ table ∧ uriBucket entry.name = bucket := by
  rw [uriHashTable_eq, List.mem_reverse, List.mem_filter, decide_eq_true_iff]

/-- The search finds an entry of the table in the bucket of the name, equal to it up to case. -/
theorem httpUriSearch_some {table : List HttpUri} {arg : List UInt8} {entry : HttpUri}
    (found : httpUriSearch table arg = some entry) :
    entry ∈ table ∧ uriBucket entry.name = uriBucket arg ∧ StrCaseEq entry.name arg := by
  have member := mem_uriHashTable.mp (List.mem_of_find?_eq_some found)
  have same := List.find?_some found
  exact ⟨member.1, member.2, of_decide_eq_true same⟩

end BoaIpcam
