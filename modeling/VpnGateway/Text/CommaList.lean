/-!
# Comma lists

A list of texts on one line. No blank is trimmed and no empty token is dropped, so splitting and
joining undo each other.

* `commaTokens`, `commaJoin`;
* `commaJoin_commaTokens`, `commaTokens_commaJoin`: they are inverse.
-/

namespace VpnGateway.Text

/-- The tokens between the commas of a text, at least one. -/
def commaTokens (s : String) : List String :=
  (s.toList.splitOn ',').map String.ofList

/-- The tokens with commas between them. -/
def commaJoin (tokens : List String) : String :=
  String.ofList ([','].intercalate (tokens.map String.toList))

@[simp] theorem commaJoin_commaTokens (s : String) : commaJoin (commaTokens s) = s := by
  have h : String.toList ∘ String.ofList = id := funext fun _ => String.toList_ofList
  simp [commaJoin, commaTokens, h]

theorem commaTokens_commaJoin {tokens : List String} (hne : tokens ≠ [])
    (h : ∀ t ∈ tokens, ',' ∉ t.toList) : commaTokens (commaJoin tokens) = tokens := by
  have hs : ([','].intercalate (tokens.map String.toList)).splitOn ',' =
      tokens.map String.toList :=
    List.splitOn_intercalate _ (by simpa using h) (by simpa using hne)
  have hid : String.ofList ∘ String.toList = id := funext fun _ => String.ofList_toList
  simp [commaTokens, commaJoin, hs, hid]

end VpnGateway.Text
