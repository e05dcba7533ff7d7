import KubeHcl.Proofs.Entries
import KubeHcl.Substitution

/-!
# Tokens and their wrapped forms

Tokens of namespaces and of texts are told apart by how they start. Wrapping puts a sentinel on
either side of a token, and the token is found again exactly in the texts that this makes, so a text
is replaced exactly when it is the wrapped form of a recorded token.
-/

namespace KubeHcl

namespace Token

/-- How the token of a namespace starts. -/
theorem head?_ofNamespace (ns : String) : (ofNamespace ns).text.toList.head? = some 'N' := by
  rw [ofNamespace, String.toList_append, List.head?_append]
  rfl

/-- The characters of the token of a text. -/
theorem toList_ofPayload (payload : String) :
    (ofPayload payload).text.toList =
      "MultiLineDataRef_".toList ++ Sha512.hexDigest payload := by
  have htext : (ofPayload payload).text =
      "MultiLineDataRef_" ++ String.ofList (Sha512.hexDigest payload) := rfl
  have hdigest : (String.ofList (Sha512.hexDigest payload)).toList = Sha512.hexDigest payload :=
    String.toList_ofList
  rw [htext, String.toList_append, hdigest]

/-- How the token of a text starts. -/
theorem head?_ofPayload (payload : String) : (ofPayload payload).text.toList.head? = some 'M' := by
  rw [toList_ofPayload, List.head?_append]
  rfl

/-- The token of a namespace is not that of a text. -/
theorem ofNamespace_ne_ofPayload (ns payload : String) : ofNamespace ns ≠ ofPayload payload := by
  intro heq
  have hhead := head?_ofNamespace ns
  rw [heq, head?_ofPayload] at hhead
  cases hhead

/-- The token of a namespace is not empty. -/
theorem ofNamespace_ne_empty (ns : String) : (ofNamespace ns).text ≠ "" := by
  intro heq
  have hhead := head?_ofNamespace ns
  rw [heq] at hhead
  cases hhead

/-- The token of a text is not empty. -/
theorem ofPayload_ne_empty (payload : String) : (ofPayload payload).text ≠ "" := by
  intro heq
  have hhead := head?_ofPayload payload
  rw [heq] at hhead
  cases hhead

/-- Texts with the same token have the same digest. -/
theorem hexDigest_eq_of_ofPayload_eq {p q : String} (heq : ofPayload p = ofPayload q) :
    Sha512.hexDigest p = Sha512.hexDigest q := by
  have hlist := congrArg (fun t : Token => t.text.toList) heq
  simp only [toList_ofPayload] at hlist
  exact List.append_cancel_left hlist

/-- The characters of a wrapped token. -/
theorem toList_wrapped (t : Token) : t.wrapped.toList = sentinel ++ t.text.toList ++ sentinel := by
  rw [wrapped, String.toList_ofList]

/-- A wrapped token is not empty. -/
theorem wrapped_ne_empty (t : Token) : t.wrapped ≠ "" := by
  intro heq
  have hlist := congrArg String.toList heq
  rw [toList_wrapped] at hlist
  cases hlist

/-- A token that is not empty is found in its wrapped form. -/
theorem unwrap?_wrapped {t : Token} (hne : t.text ≠ "") : unwrap? t.wrapped = some t := by
  have hinner : t.text.toList ≠ [] := by simpa using hne
  have hrest : t.wrapped.toList.drop sentinel.length = t.text.toList ++ sentinel := by
    rw [toList_wrapped, List.append_assoc, List.drop_left]
  have hstart : sentinel.isPrefixOf t.wrapped.toList = true := by
    rw [List.isPrefixOf_iff_prefix, toList_wrapped, List.append_assoc]
    exact List.prefix_append _ _
  have hend : sentinel.isSuffixOf (t.text.toList ++ sentinel) = true := by
    rw [List.isSuffixOf_iff_suffix]
    exact List.suffix_append _ _
  simp [unwrap?, hrest, hstart, hend, hinner]

/-- A token is only found in its wrapped form, and it is not empty. -/
theorem unwrap?_eq_some {s : String} {t : Token} (hfound : unwrap? s = some t) :
    s = t.wrapped ∧ t.text ≠ "" := by
  unfold unwrap? at hfound
  dsimp only at hfound
  split at hfound
  · next hshape =>
    simp only [Bool.and_eq_true, List.isPrefixOf_iff_prefix, List.isSuffixOf_iff_suffix] at hshape
    obtain ⟨⟨⟨rest, hrest⟩, hend⟩, hinner⟩ := hshape
    rw [← hrest, List.drop_left] at hfound hend hinner
    obtain ⟨inner, rfl⟩ := hend
    rw [List.length_append, Nat.add_sub_cancel, List.take_left] at hfound hinner
    obtain rfl := Option.some.inj hfound
    refine ⟨?_, by simpa using hinner⟩
    rw [← String.toList_inj, toList_wrapped, String.toList_ofList, ← hrest, List.append_assoc]
  · cases hfound

/-- Different tokens have different wrapped forms. -/
theorem wrapped_inj {t u : Token} (heq : t.wrapped = u.wrapped) : t = u := by
  have hlist := congrArg String.toList heq
  rw [toList_wrapped, toList_wrapped, List.append_left_inj, List.append_right_inj,
    String.toList_inj] at hlist
  cases t
  cases u
  exact congrArg Token.mk hlist

/-- Whether a text starts and ends with the sentinel. -/
def marked (s : String) : Bool := sentinel.isPrefixOf s.toList && sentinel.isSuffixOf s.toList

/-- A wrapped token does. -/
theorem marked_wrapped (t : Token) : marked t.wrapped = true := by
  rw [marked, toList_wrapped, Bool.and_eq_true_iff, List.isPrefixOf_iff_prefix,
    List.isSuffixOf_iff_suffix]
  exact ⟨List.append_assoc _ _ _ ▸ List.prefix_append _ _, List.suffix_append _ _⟩

/-- A text that fits a heredoc does not, for it ends with a line break. -/
theorem marked_of_fits {s : String} (hfits : Hcl.Heredoc.fits s = true) : marked s = false := by
  refine Bool.eq_false_iff.mpr fun hmarked => ?_
  obtain ⟨front, hfront⟩ := List.isSuffixOf_iff_suffix.mp (Bool.and_eq_true_iff.mp hmarked).2
  have hlast : s.toList.getLast? = some '#' := by
    rw [← hfront, List.getLast?_append]
    rfl
  simp [Hcl.Heredoc.fits, hlast] at hfits

/-- So it is no wrapped token. -/
theorem ne_wrapped_of_fits {s : String} (hfits : Hcl.Heredoc.fits s = true) (t : Token) :
    s ≠ t.wrapped := by
  rintro rfl
  exact Bool.false_ne_true ((marked_of_fits hfits).symm.trans t.marked_wrapped)

end Token

namespace Placeholders

variable {placeholders : Placeholders}

/-- A recorded token in its wrapped form gives way to the expression of its placeholder. -/
theorem replaceText_wrapped {token : Token} {placeholder : Placeholder} (hne : token.text ≠ "")
    (hfound : Entries.find? token placeholders = some placeholder) :
    placeholders.replaceText token.wrapped = placeholder.toExpression := by
  simp only [replaceText, Token.unwrap?_wrapped hne, hfound]

/-- A text gives way to the expression of the placeholder of its token, or is no wrapped token that
is recorded and stays. -/
theorem replaceText_cases (placeholders : Placeholders) (s : String) :
    (∃ token placeholder, token.text ≠ "" ∧ s = token.wrapped ∧
      Entries.find? token placeholders = some placeholder ∧
      placeholders.replaceText s = placeholder.toExpression) ∨
    (∀ token : Token, token.text ≠ "" → s = token.wrapped → token ∉ placeholders.map Prod.fst) ∧
      placeholders.replaceText s = .text s := by
  by_cases hrecorded :
      ∃ token : Token, token.text ≠ "" ∧ s = token.wrapped ∧ token ∈ placeholders.map Prod.fst
  · obtain ⟨token, hne, rfl, hmem⟩ := hrecorded
    obtain ⟨placeholder, hfound⟩ := Option.isSome_iff_exists.mp (Entries.find?_isSome_iff.mpr hmem)
    exact .inl ⟨token, placeholder, hne, rfl, hfound, replaceText_wrapped hne hfound⟩
  · refine .inr ⟨fun token hne hs hmem => hrecorded ⟨token, hne, hs, hmem⟩, ?_⟩
    unfold replaceText
    split
    · rfl
    · next token hunwrap =>
      obtain ⟨hs, hne⟩ := Token.unwrap?_eq_some hunwrap
      split
      · rfl
      · next placeholder hfound =>
        exact absurd ⟨token, hne, hs, List.mem_map_of_mem (Entries.mem_of_find? hfound)⟩ hrecorded

/-- A text that is no recorded token in its wrapped form stays. -/
theorem replaceText_of_forall {s : String}
    (hother : ∀ entry ∈ placeholders, s ≠ entry.1.wrapped) :
    placeholders.replaceText s = .text s := by
  rcases placeholders.replaceText_cases s with ⟨token, placeholder, -, hs, hfound, -⟩ | ⟨-, hkept⟩
  · exact absurd hs (hother (token, placeholder) (Entries.mem_of_find? hfound))
  · exact hkept

end Placeholders

end KubeHcl
