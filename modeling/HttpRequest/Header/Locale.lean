import HttpRequest.Header.Preference

/-! # Locales

A language tag is a language and, behind the first hyphen, a country. The preferred locales of a
client are the tags of its weighted preferences, the wildcard left out.
-/
namespace HttpRequest

structure Locale where
  language : String
  country : Option String := none
deriving DecidableEq, Repr

namespace Locale

/-- Splits a tag at its first hyphen; an empty country counts as absent. -/
def ofTag (tag : String) : Locale :=
  match cutAt '-' tag.toList with
  | (language, some country) =>
    let country := String.ofList (trim country)
    ⟨String.ofList (trim language), if country.isEmpty then none else some country⟩
  | (_, none) => ⟨trimText tag, none⟩

def text (l : Locale) : String :=
  match l.country with
  | some country => l.language ++ "-" ++ country
  | none => l.language

def ofHeaders (h : Headers) : List Locale :=
  ((Preference.ranked (h.texts "accept-language")).filter (· ≠ "*")).map ofTag

end Locale

end HttpRequest
