import CkbSdk.Rust
import CkbSdk.Types
import CkbSdk.Molecule
import CkbSdk.TxBuilder
import CkbSdk.TxBuilder.Cheque
import CkbSdk.TxBuilder.Transfer
import CkbSdk.TxBuilder.Acceptance
import CkbSdk.Unlock.Message
import CkbSdk.Unlock.Witness
import CkbSdk.Unlock.Sighash
import CkbSdk.Unlock.Slots
import CkbSdk.Unlock.Multisig
import CkbSdk.Unlock.MultisigRuns
import CkbSdk.Unlock.Signers
import CkbSdk.Unlock.Groups
