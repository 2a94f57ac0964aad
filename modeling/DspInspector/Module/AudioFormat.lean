import DspInspector.Wire.Coded

/-!
# Audio formats

The descriptor of the samples that pass a pin: twenty-four bytes, of which the sample encoding takes
one although enumerations usually take four.
-/

namespace DspInspector

/-- How the channels are laid out around the listener. -/
inductive ChannelConfig where
  | mono
  | stereo
  | twoPointOne
  | threePointZero
  | threePointOne
  | quatro
  | fourPointZero
  | fivePointZero
  | fivePointOne
  | dualMono
  | i2sDualStereo0
  | i2sDualStereo1
  | sevenPointOne
  deriving DecidableEq

instance : Enumeration ChannelConfig where
  all := [.mono, .stereo, .twoPointOne, .threePointZero, .threePointOne, .quatro, .fourPointZero,
    .fivePointZero, .fivePointOne, .dualMono, .i2sDualStereo0, .i2sDualStereo1, .sevenPointOne]
  coding
    | .mono => ⟨0, "Mono", "mono"⟩
    | .stereo => ⟨1, "Stereo", "stereo"⟩
    | .twoPointOne => ⟨2, "TwoPointOne", "2.1"⟩
    | .threePointZero => ⟨3, "ThreePointZero", "3.0"⟩
    | .threePointOne => ⟨4, "ThreePointOne", "3.1"⟩
    | .quatro => ⟨5, "Quatro", "quatro"⟩
    | .fourPointZero => ⟨6, "FourPointZero", "4.0"⟩
    | .fivePointZero => ⟨7, "FivePointZero", "5.0"⟩
    | .fivePointOne => ⟨8, "FivePointOne", "5.1"⟩
    | .dualMono => ⟨9, "DualMono", "dual mono"⟩
    | .i2sDualStereo0 => ⟨10, "I2sDualStereo0", "i2s dual stereo 0"⟩
    | .i2sDualStereo1 => ⟨11, "I2sDualStereo1", "i2s dual stereo 1"⟩
    | .sevenPointOne => ⟨12, "SevenPointOne", "7.1"⟩

/-- Whether the channels of one moment stand together. -/
inductive Interleaving where
  | samples
  | blocks
  deriving DecidableEq

instance : Enumeration Interleaving where
  all := [.samples, .blocks]
  coding
    | .samples => ⟨0, "Samples", "sample"⟩
    | .blocks => ⟨1, "Blocks", "block"⟩

/-- The encoding of one sample. -/
inductive SampleType where
  | msbInteger
  | lsbInteger
  | signedInteger
  | unsignedInteger
  | float
  deriving DecidableEq

instance : Enumeration SampleType where
  all := [.msbInteger, .lsbInteger, .signedInteger, .unsignedInteger, .float]
  coding
    | .msbInteger => ⟨0, "MsbInteger", "msb integer"⟩
    | .lsbInteger => ⟨1, "LsbInteger", "lsb integer"⟩
    | .signedInteger => ⟨2, "SignedInteger", "signed integer"⟩
    | .unsignedInteger => ⟨3, "UnsignedInteger", "unsigned integer"⟩
    | .float => ⟨4, "Float", "float"⟩

/-- The format of the samples at a pin. -/
structure AudioFormat where
  samplingFrequency : UInt32
  bitDepth : UInt32
  channelMap : UInt32
  channelConfig : Coded ChannelConfig
  interleaving : Coded Interleaving
  channels : UInt8
  validBitDepth : UInt8
  sampleType : Coded SampleType
  reserved : UInt8
  deriving DecidableEq

namespace AudioFormat

/-- Stereo at 48 kHz in 16 bits. -/
def standard : AudioFormat where
  samplingFrequency := 48000
  bitDepth := 16
  channelMap := 0xFFFFFF10
  channelConfig := .known .stereo
  interleaving := .known .samples
  channels := 2
  validBitDepth := 16
  sampleType := .known .signedInteger
  reserved := 0

instance : Inhabited AudioFormat := ⟨standard⟩

/-- The bytes of one sample over all channels, when the valid bits are whole bytes. -/
def sampleBytes (format : AudioFormat) : Option Nat :=
  if format.validBitDepth.toNat % 8 = 0 then some (format.bitDepth.toNat / 8 * format.channels.toNat)
  else none

/-- The format as it is shown to a person. -/
def text (format : AudioFormat) : String :=
  s!"config={format.channelConfig.text}/bit_depth={format.bitDepth.toNat}" ++
    s!"/sample_type={format.sampleType.text}/interleaving={format.interleaving.text}" ++
    s!"/channel_count={format.channels.toNat}/valid_bit_depth={format.validBitDepth.toNat}" ++
    s!"/sampling_frequency={format.samplingFrequency.toNat}"

/-- The sample encoding takes the low byte of its code. -/
instance : Wire AudioFormat :=
  Wire.via
    (fun (samplingFrequency, bitDepth, channelMap, channelConfig, interleaving, channels, validBitDepth,
        (sampleByte : UInt8), reserved) =>
      { samplingFrequency, bitDepth, channelMap, channelConfig, interleaving, channels, validBitDepth,
        sampleType := Coded.ofRaw sampleByte.toUInt32, reserved })
    (fun format => (format.samplingFrequency, format.bitDepth, format.channelMap, format.channelConfig,
      format.interleaving, format.channels, format.validBitDepth, format.sampleType.raw.toUInt8,
      format.reserved))

end AudioFormat

end DspInspector
