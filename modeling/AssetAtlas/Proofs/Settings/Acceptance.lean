import AssetAtlas.CommandLine.Run
import AssetAtlas.Proofs.Text.Trimming

/-!
Settings that pass, and what is made of them. The address is judged without the blank characters
around it, but it is used as it is written. So a client can be made of settings that pass if and only
if their address does not begin with a blank character; blank characters behind it do no harm.
-/

namespace AssetAtlas

theorem isWebAddress_iff_of_trim {address : String}
    (h : isWebAddress (Text.trim address) = true) :
    isWebAddress address = true ↔ Text.beginsBlank address = false := by
  rw [isWebAddress, Bool.or_eq_true] at h ⊢
  constructor
  · rintro (hplain | hsecure)
    · exact Text.beginsBlank_of_beginsWith (c := 'h') rfl hplain
    · exact Text.beginsBlank_of_beginsWith (c := 'h') rfl hsecure
  · intro hblank
    exact h.imp (Text.beginsWith_of_trim hblank) (Text.beginsWith_of_trim hblank)

theorem Endpoint.ofAddress_address (e : Endpoint) : ofAddress e.address = .ok e :=
  dif_pos e.isWeb

theorem Endpoint.ofAddress_of_not_isWeb {address : String} (h : ¬ isWebAddress address = true) :
    ofAddress address = .error (.other
      s!"Invalid query endpoint '{address}': expected an http:// or https:// URL") :=
  dif_neg h

theorem Client.new_of_ok {address : String} {e : Endpoint} (h : Endpoint.ofAddress address = .ok e)
    (token : Option String) (timeout : Nat) :
    ∃ c, Client.new address token timeout = .ok c ∧ c.endpoint = e := by
  rw [Client.new, h]
  exact ⟨_, rfl, rfl⟩

theorem Client.new_of_error {address : String} {fault : Fault}
    (h : Endpoint.ofAddress address = .error fault) (token : Option String) (timeout : Nat) :
    Client.new address token timeout = .error fault := by
  rw [Client.new, h]
  rfl

namespace Settings

theorem ite_error_eq_ok_iff {p : Prop} [Decidable p] {fault : SettingsFault}
    {rest : Except SettingsFault Unit} :
    (if p then .error fault else rest) = .ok () ↔ ¬ p ∧ rest = .ok () := by
  split
  · next h => exact iff_of_false nofun fun hrest => hrest.1 h
  · next h => exact ⟨fun hrest => ⟨h, hrest⟩, And.right⟩

theorem validate_eq_ok_iff (s : Settings) :
    s.validate = .ok () ↔
      (∀ address, s.endpoint = some address → isWebAddress (Text.trim address) = true) ∧
      s.timeout ≠ some 0 ∧
      ∀ width, s.viewport = some width → isWidth width = true := by
  unfold validate
  cases s.endpoint <;> cases s.viewport <;>
    simp [ite_error_eq_ok_iff, bind, Except.bind, throw, throwThe, MonadExceptOf.throw, pure,
      Except.pure]

theorem validate_of_ofFileText {path text : String} {s : Settings}
    (h : ofFileText path text = .ok s) : s.validate = .ok () := by
  unfold ofFileText at h
  cases hread : ofText text with
  | error fault =>
      rw [hread] at h
      exact nomatch h
  | ok read =>
      rw [hread] at h
      cases hvalid : read.validate with
      | error fault => simp [hvalid, bind, Except.bind] at h
      | ok =>
          simp only [hvalid, bind, Except.bind, pure, Except.pure, Except.ok.injEq] at h
          exact h ▸ hvalid

theorem client_of_endpoint {s : Settings} {address : String} (h : s.endpoint = some address)
    {a : Arguments} (ha : a.endpoint = none) :
    a.client s = Client.new address (a.token <|> s.token)
      ((s.timeout.map (·.toNat)).getD standardTimeout) := by
  rw [Arguments.client, ha, h]
  rfl

/-- The address of settings that pass is taken if and only if it does not begin with a blank
character, and so is the client of every command line that names no other address. -/
theorem accepted_address_usable_iff (s : Settings) (address : String)
    (hvalid : s.validate = .ok ()) (haddress : s.endpoint = some address) :
    ((∃ e, Endpoint.ofAddress address = .ok e) ↔ Text.beginsBlank address = false) ∧
    ∀ a : Arguments, a.endpoint = none →
      (Text.beginsBlank address = false →
        ∃ c, a.client s = .ok c ∧ c.endpoint.address = address) ∧
      (Text.beginsBlank address = true →
        a.client s = .error (.other
          s!"Invalid query endpoint '{address}': expected an http:// or https:// URL")) := by
  have htrimmed : isWebAddress (Text.trim address) = true :=
    (s.validate_eq_ok_iff.mp hvalid).1 address haddress
  have hweb := isWebAddress_iff_of_trim htrimmed
  refine ⟨⟨?_, ?_⟩, fun a ha => ⟨?_, ?_⟩⟩
  · rintro ⟨e, he⟩
    by_contra hblank
    rw [Endpoint.ofAddress_of_not_isWeb (mt hweb.mp hblank)] at he
    exact nomatch he
  · intro hblank
    exact ⟨_, Endpoint.ofAddress_address ⟨address, hweb.mpr hblank⟩⟩
  · intro hblank
    obtain ⟨c, hc, hendpoint⟩ := Client.new_of_ok
      (Endpoint.ofAddress_address ⟨address, hweb.mpr hblank⟩) (a.token <|> s.token)
      ((s.timeout.map (·.toNat)).getD standardTimeout)
    exact ⟨c, (client_of_endpoint haddress ha).trans hc, congrArg Endpoint.address hendpoint⟩
  · intro hblank
    have hnot : ¬ isWebAddress address = true := by
      rw [hweb, hblank]
      decide
    rw [client_of_endpoint haddress ha]
    exact Client.new_of_error (Endpoint.ofAddress_of_not_isWeb hnot) _ _

theorem accepted_address_usable_blank_behind :
    let s : Settings := { endpoint := some "https://store.example\u00a0\n", timeout := some 5 }
    s.validate = .ok () ∧ ∃ c, ({} : Arguments).client s = .ok c ∧
      c.endpoint.address = "https://store.example\u00a0\n" := by
  intro s
  have hvalid : s.validate = .ok () := by rfl
  obtain ⟨-, hclient⟩ := accepted_address_usable_iff s _ hvalid rfl
  exact ⟨hvalid, (hclient {} rfl).1 (by decide)⟩

def indentedText : String := "endpoint: \" http://localhost\"\n"

/-- An address in a file that begins with a blank character passes, and then it is refused. -/
theorem blank_in_front_passes_unusable :
    ∃ s, ofFileText fileName indentedText = .ok s ∧ s.endpoint = some " http://localhost" ∧
      s.validate = .ok () ∧ ∀ e, Endpoint.ofAddress " http://localhost" ≠ .ok e := by
  have hread : (ofFileText fileName indentedText).toOption.bind (·.endpoint) =
      some " http://localhost" := by
    decide +kernel
  cases hfile : ofFileText fileName indentedText with
  | error fault =>
      rw [hfile] at hread
      exact nomatch hread
  | ok s =>
      rw [hfile] at hread
      exact ⟨s, rfl, hread, validate_of_ofFileText hfile, nofun⟩

end Settings

end AssetAtlas
