import LadderAtlas.Config
import LadderAtlas.Fetch.Source
import LadderAtlas.Proofs.Number.Numerals
import LadderAtlas.Proofs.Url.Joining

/-! # The addresses of endpoints

An endpoint is asked for below the base that is configured. A base that passes the checks may still
have no hierarchy, and then no endpoint has an address. Under any other base different endpoints
have different addresses, and where the base ends in a slash, all of its path is kept.
-/

namespace LadderAtlas

open Url

namespace Endpoint

/-- The first segment of a path, which is never empty. -/
def firstSegment : Endpoint → List Char
  | .mode _ => "stats".toList
  | .team _ => "team".toList

def otherSegments : Endpoint → List (List Char)
  | .mode id => ["raw".toList, Numeral.chars id.toInt, []]
  | .team id => [Numeral.chars id.toInt, "rankings".toList, []]

theorem toList_path (e : Endpoint) :
    e.path.toList = e.firstSegment ++ e.otherSegments.flatMap ('/' :: ·) := by
  cases e <;> simp [path, firstSegment, otherSegments, Numeral.text]

theorem plain_numeral (n : Int) : Plain (Numeral.chars n) := by
  intro c member
  rcases Numeral.mem_chars member with rfl | digit
  · exact .inr (.inr rfl)
  · exact .inr (.inl digit)

theorem plain_firstSegment (e : Endpoint) : Plain e.firstSegment := by
  cases e with
  | mode id => exact (by decide +kernel : Plain "stats".toList)
  | team id => exact (by decide +kernel : Plain "team".toList)

theorem plain_otherSegments (e : Endpoint) : ∀ segment ∈ e.otherSegments, Plain segment := by
  have none : Plain [] := nofun
  cases e with
  | mode id =>
      have fixed : Plain "raw".toList := by decide +kernel
      exact List.forall_mem_cons.mpr
        ⟨fixed, List.forall_mem_cons.mpr ⟨plain_numeral _, List.forall_mem_singleton.mpr none⟩⟩
  | team id =>
      have fixed : Plain "rankings".toList := by decide +kernel
      exact List.forall_mem_cons.mpr
        ⟨plain_numeral _, List.forall_mem_cons.mpr ⟨fixed, List.forall_mem_singleton.mpr none⟩⟩

theorem firstSegment_ne_nil (e : Endpoint) : e.firstSegment ≠ [] := by
  cases e <;> exact List.cons_ne_nil _ _

/-- Each endpoint has a path of its own. -/
theorem path_injective : Function.Injective path := by
  intro e e' same
  have chars : e.path.toList = e'.path.toList := congrArg String.toList same
  rw [toList_path, toList_path] at chars
  cases e with
  | mode id =>
      cases e' with
      | mode id' =>
          have numerals : Numeral.chars id.toInt = Numeral.chars id'.toInt := by
            simpa [firstSegment, otherSegments] using chars
          rw [Int32.toInt_inj.mp (Numeral.chars_injective numerals)]
      | team id' => cases (List.cons.inj chars).1
  | team id =>
      cases e' with
      | mode id' => cases (List.cons.inj chars).1
      | team id' =>
          have numerals : Numeral.chars id.toInt ++ "/rankings/".toList =
              Numeral.chars id'.toInt ++ "/rankings/".toList := by
            simpa [firstSegment, otherSegments] using chars
          rw [Int64.toInt_inj.mp (Numeral.chars_injective (List.append_cancel_right numerals))]

/-- The address of an endpoint is that of the base's folder with the endpoint's path behind it. -/
theorem text_of_url {base : Url} {segments : List (List Char)}
    (rooted : base.path = .rooted segments)
    (kept : trimmed (base.scheme == fileScheme) segments = segments) (e : Endpoint) :
    ∃ u, e.url base = .ok u ∧ u.text = (folderUrl base segments).text ++ e.path := by
  obtain ⟨u, read, written⟩ :=
    text_of_resolve? rooted kept e.plain_firstSegment e.plain_otherSegments
    e.firstSegment_ne_nil e.toList_path
  refine ⟨u, ?_, written⟩
  unfold url
  rw [read]

end Endpoint

/-- The base of a configuration that passes the checks. -/
theorem Config.exists_base_of_validate {c : Config} (valid : c.validate = .ok ()) :
    ∃ base, c.dynamicUrl? = .ok base ∧ Url.parse? c.site.dynamicUrl = .ok base := by
  obtain ⟨base, read, -⟩ := exists_of_bind_eq_ok valid
  refine ⟨base, read, ?_⟩
  unfold dynamicUrl? url? at read
  split at read
  · next url parsed =>
      cases read
      exact parsed
  · cases read

/-- Where a configuration passes the checks, its base is an address. If it has a hierarchy, each
    endpoint has an address, different endpoints have different ones, and they start with all of a
    base that ends in a slash, less its query and fragment. Otherwise every endpoint is refused an
    address. -/
theorem Config.endpoints_of_validate {c : Config} (valid : c.validate = .ok ()) :
    ∃ base, c.dynamicUrl? = .ok base ∧
      (∀ segments, base.path = .rooted segments → ∃ address : Endpoint → Url,
        (∀ e : Endpoint, e.url base = .ok (address e)) ∧
          Function.Injective (fun e => (address e).text) ∧
        (segments.getLast? = some [] → ∀ e,
          (address e).text =
            ({ base with query := none, fragment := none } : Url).text ++ e.path)) ∧
      ∀ opaqueText, base.path = .rootless opaqueText → ∀ e : Endpoint, e.url base =
        .error (.invalidUrl
          (base.text ++ e.path ++ ": " ++ UrlError.baseWithoutHierarchy.message)) := by
  obtain ⟨base, read, parsed⟩ := exists_base_of_validate valid
  refine ⟨base, read, fun segments rooted => ?_, fun opaqueText rootless e => ?_⟩
  · have kept := trimmed_of_parse? parsed rooted
    choose address found written using Endpoint.text_of_url rooted kept
    refine ⟨address, found, ?_, ?_⟩
    · intro e e' same
      dsimp only at same
      rw [written, written] at same
      exact Endpoint.path_injective (String.append_right_inj _ |>.mp same)
    · intro slash e
      obtain ⟨front, rfl⟩ := List.getLast?_eq_some_iff.mp slash
      rw [written, folderUrl, folder_append_nil, ← rooted]
  · unfold Endpoint.url Url.resolve?
    rw [rootless]

/-- The standard configuration with another base. -/
def Config.withBase (base : String) : Config :=
  { Config.standard with site := { Site.standard with dynamicUrl := base } }

theorem Config.endpoints_of_validate_folder :
    ∃ base, (withBase "https://example.com/a/b/?c#d").dynamicUrl? = .ok base ∧ ∃ address :
    Endpoint → Url,
      (∀ e : Endpoint, e.url base = .ok (address e)) ∧
        Function.Injective (fun e => (address e).text) ∧
      ∀ e, (address e).text = "https://example.com/a/b/" ++ e.path := by
  have valid : (withBase "https://example.com/a/b/?c#d").validate = .ok () := by decide +kernel
  have computed : ((withBase "https://example.com/a/b/?c#d").dynamicUrl?.map fun base =>
      (base.path, ({ base with query := none, fragment := none } : Url).text)).toOption =
        some (.rooted [['a'], ['b'], []], "https://example.com/a/b/") := by
    decide +kernel
  obtain ⟨base, read, below, -⟩ := endpoints_of_validate valid
  rw [read] at computed
  obtain ⟨rooted, bare⟩ := Prod.mk.inj (Option.some.inj computed)
  obtain ⟨address, found, apart, written⟩ := below _ rooted
  exact ⟨base, read, address, found, apart, fun e => bare ▸ written rfl e⟩

/-- The last segment of a base that does not end in a slash is not kept, and under a base without
    hierarchy there is no address at all. -/
theorem Config.endpoint_not_below_base :
    (∃ base u, (withBase "https://example.com/site").validate = .ok () ∧
      (withBase "https://example.com/site").dynamicUrl? = .ok base ∧
      (Endpoint.mode 11).url base = .ok u ∧
      u.text = "https://example.com/stats/raw/11/" ∧
      u.text ≠ base.text ++ (Endpoint.mode 11).path) ∧
    ∃ base e, (withBase "mailto:me").validate = .ok () ∧
      (withBase "mailto:me").dynamicUrl? = .ok base ∧
      (Endpoint.mode 11).url base = .error e := by
  have replaced : ((withBase "https://example.com/site").dynamicUrl?.map fun base =>
      (base.text, (((Endpoint.mode 11).url base).map Url.text).toOption)).toOption =
        some ("https://example.com/site", some "https://example.com/stats/raw/11/") := by
    decide +kernel
  have refused : ((withBase "mailto:me").dynamicUrl?.map fun base =>
      ((Endpoint.mode 11).url base).isOk).toOption = some false := by
    decide +kernel
  obtain ⟨base, read, same⟩ := exists_of_toOption_map_eq_some replaced
  obtain ⟨whole, address⟩ := Prod.mk.inj same
  obtain ⟨u, found, written⟩ := exists_of_toOption_map_eq_some address
  obtain ⟨other, read', failed⟩ := exists_of_toOption_map_eq_some refused
  refine ⟨⟨base, u, by decide +kernel, read, found, written, ?_⟩, other, ?_⟩
  · rw [written, whole]
    decide
  · cases result : (Endpoint.mode 11).url other with
    | ok url =>
        rw [result] at failed
        cases failed
    | error e => exact ⟨e, by decide +kernel, read', rfl⟩

end LadderAtlas
