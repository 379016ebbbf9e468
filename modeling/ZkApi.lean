import ZkApi.Browser.Withdraw
import ZkApi.Cairo.Executables
import ZkApi.Client.Agreement
import ZkApi.Client.Outstanding
import ZkApi.Client.Recovery
import ZkApi.Core.Binding
import ZkApi.Indexer.TreeMirror
import ZkApi.Poseidon.Agreement
import ZkApi.Proof.Codec
import ZkApi.Proof.Signing
import ZkApi.Proof.SpendChain
import ZkApi.Server.Replay
import ZkApi.Server.Spendable
import ZkApi.Vault.Evidence
import ZkApi.Client.Challenge
import ZkApi.Vault.Settlement
