/-
# How a body is delivered makes no difference

A response delivers its body in chunks and may announce the length before.  The body is refused by what is
announced, or by what has been received so far, and the chunks are decoded together.  So only the bytes count
(`body_eq`): where they are cut does not matter, not even inside a character, and a length that is announced
truly says what the chunks will say.

The main statement is about fetching (`fetch_delivery`): as soon as there is a request for the address, what is
fetched is up to the response (`fetch_eq_of_request`).
-/
import TemplateExpansion.Http.Client
import TemplateExpansion.Proofs.Decoding

namespace TemplateExpansion
namespace Http

/-! ## 1. The body of a response -/

namespace Response

/-- What becomes of the bytes of a body that is not too long: a text, unless the body breaks off. -/
def conclude (fault : Option Text) (bytes : List UInt8) : Except FetchError Text :=
  match fault with
  | some message => .error (.body message)
  | none => .ok (Utf8.decodeLossy bytes)

/-- **Only the bytes of the chunks count.**  With no more than the limit received so far, the chunks are
refused exactly if their bytes go beyond it. -/
theorem receive_eq {limit received : Nat} (h : received ≤ limit) (fault : Option Text)
    (kept chunks : List (List UInt8)) :
    receive limit fault received kept chunks =
      if limit < received + chunks.flatten.length then .error (.tooLarge limit)
      else conclude fault (kept.reverse.flatten ++ chunks.flatten) := by
  induction chunks generalizing received kept with
  | nil =>
    rw [List.flatten_nil, List.length_nil, Nat.add_zero, if_neg (Nat.not_lt.2 h), List.append_nil]
    cases fault <;> rfl
  | cons chunk chunks ih =>
    rw [receive, List.flatten_cons, List.length_append, ← Nat.add_assoc]
    split
    · rename_i hchunk
      rw [if_pos (Nat.lt_of_lt_of_le hchunk (Nat.le_add_right _ _))]
    · rename_i hchunk
      rw [ih (Nat.le_of_not_lt hchunk)]
      simp only [List.reverse_cons, List.flatten_append, List.flatten_singleton, List.append_assoc]

/-- **A body is refused** exactly if the announced length or the number of its bytes is above the limit. -/
theorem body_eq (limit : Nat) (response : Response) :
    response.body limit =
      if response.announced.any (limit < ·) = true ∨ limit < response.chunks.flatten.length then
        .error (.tooLarge limit)
      else conclude response.fault response.chunks.flatten := by
  rw [body, receive_eq (Nat.zero_le limit), Nat.zero_add]
  by_cases hannounced : response.announced.any (limit < ·) = true
  · rw [if_pos hannounced, if_pos (.inl hannounced)]
  · rw [if_neg hannounced]
    exact if_congr (by simp [hannounced]) rfl rfl

end Response

/-! ## 2. Fetching -/

/-- **What is fetched** is what the response to the request says. -/
theorem fetch_eq_of_request {settings : Settings} {address : Text} {r : Request}
    (h : request settings address = .ok r) {transport : Transport} {response : Response}
    (hresponse : transport r = .ok response) :
    fetch settings transport address = response.body settings.maxFetchBytes := by
  rw [fetch, h]
  simp only [hresponse]

/-- **The delivery of a body makes no difference.**  Take an address for which there is a request, and cut the
bytes of a body into chunks in any way, empty chunks among them.

* If the body ends cleanly and its length is announced truly or not at all, what is fetched is the text that the
  bytes stand for, or the body is refused if there are more bytes than the limit allows.  If the bytes are those of
  a text, that text is fetched, wherever they are cut.
* If the body breaks off after these bytes, it is refused if their number or the length that is announced,
  whichever that is, is above the limit; else the cause is that it breaks off. -/
theorem fetch_delivery {settings : Settings} {address : Text} {r : Request}
    (hrequest : request settings address = .ok r) {bytes : List UInt8} {chunks : List (List UInt8)}
    (hchunks : chunks.flatten = bytes) (transport : Transport) :
    let limit := settings.maxFetchBytes
    (∀ announced, announced = none ∨ announced = some bytes.length →
        transport r = .ok ⟨announced, chunks, none⟩ →
          fetch settings transport address =
            if limit < bytes.length then .error (.tooLarge limit) else .ok (Utf8.decodeLossy bytes)) ∧
      (∀ t, bytes = Utf8.encode t → Utf8.decodeLossy bytes = t) ∧
      ∀ announced message, transport r = .ok ⟨announced, chunks, some message⟩ →
        fetch settings transport address =
          if (∃ length ∈ announced, limit < length) ∨ limit < bytes.length then .error (.tooLarge limit)
          else .error (.body message) := by
  subst hchunks
  refine ⟨?_, ?_, ?_⟩
  · intro announced hannounced hresponse
    rw [fetch_eq_of_request hrequest hresponse, Response.body_eq]
    have hcause : announced.any (settings.maxFetchBytes < ·) = true ∨
        settings.maxFetchBytes < chunks.flatten.length ↔ settings.maxFetchBytes < chunks.flatten.length := by
      rcases hannounced with rfl | rfl <;> simp
    exact if_congr hcause rfl rfl
  · rintro t ht
    rw [ht, Utf8.decodeLossy_encode]
  · intro announced message hresponse
    rw [fetch_eq_of_request hrequest hresponse, Response.body_eq]
    refine if_congr (or_congr_left ?_) rfl rfl
    simp [Option.any_eq_true]

/-- Five bytes under a limit of five, cut inside both of their characters: they end cleanly, break off, and break
off after the announcement of a sixth. -/
theorem fetch_delivery_inside_characters :
    let settings := { Settings.standard with maxFetchBytes := 5 }
    let address := "http://1.2.3.4/a".toList
    let r : Request :=
      ⟨⟨"http".toList, some (.ofHost "1.2.3.4".toList), "/a".toList, none, none⟩, settings.userAgent, 10000⟩
    let chunks : List (List UInt8) := [[0xC3], [], [0xA9, 0xE2, 0x82], [0xAC]]
    let answer : Option Nat → Option Text → Transport := fun announced fault _ =>
      .ok ⟨announced, chunks, fault⟩
    request settings address = .ok r ∧ chunks.flatten = Utf8.encode "é€".toList ∧
      fetch settings (answer (some 5) none) address = .ok "é€".toList ∧
      fetch settings (answer none (some "reset".toList)) address = .error (.body "reset".toList) ∧
      fetch settings (answer (some 6) (some "reset".toList)) address = .error (.tooLarge 5) := by
  intro settings address r chunks answer
  have hrequest : request settings address = .ok r := by decide +kernel
  have hchunks : chunks.flatten = Utf8.encode "é€".toList := by decide
  have hclean := fetch_delivery hrequest hchunks (answer (some 5) none)
  have hbroken := fetch_delivery hrequest hchunks (answer none (some "reset".toList))
  have hannounced := fetch_delivery hrequest hchunks (answer (some 6) (some "reset".toList))
  refine ⟨hrequest, hchunks, ?_, ?_, ?_⟩
  · rw [hclean.1 (some 5) (.inr rfl) rfl, hclean.2.1 _ rfl]
    rfl
  · exact hbroken.2.2 none _ rfl
  · exact hannounced.2.2 (some 6) _ rfl

end Http
end TemplateExpansion
