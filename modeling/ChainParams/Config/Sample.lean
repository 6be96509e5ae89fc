import ChainParams.Config.Basic
import ChainParams.Toml.Writer

/-!
# Sample — a configuration to start from

The configuration of one network, written out for a user to change.
-/

namespace ChainParams

/-- The TOML values of the fields of `c`, in the order of `CustomNetwork.fieldNames`. -/
def CustomNetwork.tomlValues (c : CustomNetwork) : List String :=
  [Toml.writeText c.name, Toml.writeText c.base.name, toString c.magic.word.toNat,
    toString c.pubkeyHashPrefix.toNat, toString c.scriptHashPrefix.toNat,
    toString c.aztecPrefix.toNat, toString c.privateKeyPrefix.toNat,
    Toml.writeText c.hdPrivateId.toHex, Toml.writeText c.hdPublicId.toHex,
    toString c.hdCoinType.toNat] ++ c.defaultPort.toList.map fun port => toString port.toNat

def Config.toToml (config : Config) : String :=
  "\n".intercalate (config.customNetworks.map fun c =>
    Toml.writeSection "custom_networks" (CustomNetwork.fieldNames.zip c.tomlValues))

def Config.sample : Config :=
  { customNetworks :=
      [ { name := "devnet"
          base := .regtest
          magic := ⟨0xfeedbeef⟩
          pubkeyHashPrefix := 0x1e
          scriptHashPrefix := 0x16
          aztecPrefix := 0
          privateKeyPrefix := 0x9e
          hdPrivateId := ⟨0x02, 0xfa, 0xc3, 0x98⟩
          hdPublicId := ⟨0x02, 0xfa, 0xca, 0xfd⟩
          hdCoinType := 3
          defaultPort := some 19444 } ] }

end ChainParams
