import ChangeRelay.Config.Basic
import ChangeRelay.Error
import ChangeRelay.Yaml.Decode

/-!
# Configurations written in YAML

A configuration file is YAML (JSON is YAML too). It is read by the same form as any other
document (`RelayConfig.form`), with YAML's readers (`Yaml.readText`); a text that cannot be read
is a configuration error that says why and where. Nothing is checked or overridden here: that
is `RelayConfig.validate` and `RelayConfig.applyEnv`.
-/

namespace ChangeRelay

/-- A configuration from YAML text. -/
def RelayConfig.ofYaml (text : String) : Except RelayError RelayConfig :=
  (Yaml.readText RelayConfig.read text).mapError fun f => .config ("Invalid config: " ++ f.message)

end ChangeRelay
