/-!
# The table of character names

The names and name aliases of characters (Unicode 15), without those that follow from the code
point or from the sound of a syllable. How the table is read is not said here.
-/

namespace ServiceStubs.Text

/-- The names in their loose form and in ascending order. A small letter ends a name, and tells
how many of its last characters are replaced by what comes next: `a` for none, `b` for one, and
so on, with `\u00c0` and its successors after `z`. Line feeds do not count. -/
def characterNameTable : String :=
"ABACUSfCCORDIONfUNTOFgURRENThKaNOWLEDGEjTIVATEARABICFORMSHAPINGrSYMMETRICSWAPPINGxUTEACCENTfNGLEjDD
RESSEDTOTHESUBJECTtHESIVEBANDAGEnISHAKTIhLAMALIFLENGTHENERoCAPITALLETTERALIFeBAbHEdCHIdDAALIeHAdEbF
AcGAbBEdHAcIbJIIMeKAFcHAcPOdLAAMeMIIMeNHAcUNcYAdObPEcQAAFeRAcSHAcINNYIIYHEkTUcUbVAcWAWdYAbHEdZALpON
SONANTMODIFIERrDIGITEIGHTfFIVEdOUReNINEeONEdSEVENeIXdTHREEeWOdZEROjGEMINATECONSONANTMODIFIERsIONMAR
KoHAMZAfINITIALEXCLAMATIONMARKpQUESTIONMARKtNASALIZATIONMARKpUKTAfSMALLLETTERALIFeBAbHEdCHIdDAALIeH
AdEbFAcGAbBEdHAcIbJIIMeKAFcHAcPOdLAAMeMIIMeNHAcUNcYAdObPEcQAAFeRAcSHAcINNYIIYHEkTUcUbVAcWAWdYAbHEdZ
ALoVOWELLENGTHENERsMETOSeISSIONTICKETSoULTeEGEANCHECKMARKjDRYMEASUREFIRSTSUBUNITwLIQUIDMEASUREFIRST
SUBUNITzMEASURESECONDSUBUNITnTHIRDSUBUNITtNUMBEREIGHTaHUNDREDhTHOUSANDiYaTHOUSANDoFIFTYaTHOUSANDlVE
aHUNDREDhTHOUSANDlORTYaTHOUSANDlURaHUNDREDhTHOUSANDmNINEaHUNDREDhTHOUSANDhYaTHOUSANDoONEaHUNDREDhTH
OUSANDlSEVENaHUNDREDhTHOUSANDhYaTHOUSANDoIXaHUNDREDhTHOUSANDhYaTHOUSANDnTENaTHOUSANDkHIRTYaTHOUSAND
mREEaHUNDREDhTHOUSANDmWENTYaTHOUSANDmOaHUNDREDhTHOUSANDrWEIGHTBASEUNITiFIRSTSUBUNITlOURTHSUBUNITnSE
CONDSUBUNITnTHIRDSUBUNITrORDSEPARATORDOTdLINEvRIALTRAMWAYmFGHANISIGNkHOMCONSONANTSIGNMEDIALLAbIGATI
NGRAkRAvDIGITEIGHTfFIVEdOUReNINEeONEdSEVENeIXdTHREEeWOdZEROjLETTERAaLTERNATEBAcGAcTAlBAbHAdCAbHAdDA
bDAbHAdHAdGAbHAdHAcJAbHAdKAbHAdLAbLAdMAcNAbGAcNAcYAdPAbHAdRAcSAcTAbHAcTAbHAkNUMBERTENcWENTYmSIGNKIL
LERgRULAIfSECTIONgMALLSECTIONpYMBOLVIiVOWELSIGNAaAbIbMbWcEbIaIcObUaUoIRPLANEaARRIVINGiDEPARTUREqKTI
ESELSKABlLARMCLOCKiCHEMICALSYMBOLFORAIRcLEMBICfKALIa2fUMdMALGAMgNTIMONYOREkQUAFORTISgREGIAa2gVITAEa
2jRSENICgSHESeURIPIGMENTlBATHOFMARYeVAPOURSmISMUTHOREjLACKSULFURkORAXa2b3fRICKfCADUCEUSgLXcPUTMORTU
UMlINNABARhOPPERANTIMONIATElOREiROCUSOFCOPPERa2hIRONkUCIBLEa2b3b4b5jDAYNIGHThISSOLVEa2gTILLhEARTHfF
IREeGOLDdUMdHALFDRAMeOUNCEiORSEDUNGhUReIRONCOPPEROREjOREa2iLEADOREgODESTONEjMARCASITEiERCURYSUBLIMA
TEa2b3qONTHfNIGHTdTREfOILdPHILOSOPHERSSULFURrOTASHESgWDERaEDBRICKmRECIPITATEkURIFYeTREFACTIONmQUICK
LIMEgNTESSENCEmREALGARa2gGULUSa2b3b4bOFANTIMONYa2jIRONlTORTfOCKSALTa2jSALAMMONIACiTaOFANTIMONYiCOPP
ERANTIMONIATEwCEPTEROFJOVEmILVERfOAPdPIRITfTARREDTRIDENTmRATUMSUPERSTRATUMa2tUBLIMATEOFANTIMONYiCOP
PERgSALTOFANTIMONYiCOPPERpIONjLFURgTARTARa2gINCTUREfOREfRIDENTgUTTYfURINEfVERDIGRISiINEGARa2b3bOFAN
TIMONYpTRIOLa2iWATERdXuEFSYMBOLhMBICeRTdIENMONSTERkLAROUNDPROFILEnEQUALTOiMaOSTEQUALOREQUALTOjTOaWI
THCIRCUMFLEXACCENTÅTERNATEONEWAYLEFTWAYTRAFFICvIVEKEYSYMBOLtMALGAMATIONORCOPRODUCTvBULANCEhERICANFO
OTBALLoPERSANDgHORAgNATOLIANHIEROGLYPHA001b2b3b4b5b6b7b8b9c10aAc1b2b3b4b5b6b7b8b9c20b1b2b3b4b5b6aAc
7b8b9c30b1b2b3b4b5b6b7b8b9aAd40b1aAc2b3b4b5aAc6aAbBc7b8b9c50b1b2b3b4b5b6b7b8b9c60b1b2b3b4b5b6aAbBbC
c7b8b9c70b1b2b3b4b5b6b7b8b9c80b1b2b3b4b5b6b7b8b9c90b1b2b3b4b5b6b7aAc8aAc9d100aAc1aAc2aAc3b4aAbBbCc5
aAbBc6b7aAbBbCc8b9c10aAbBc1b2b3b4b5aAc6b7b8b9c20b1b2b3b4b5aAc6b7b8b9c30b1b2b3b4b5aAc6b7b8b9c40b1b2b
3b4b5b6b7b8b9c50b1b2b3b4b5b6b7b8b9c60b1b2b3b4b5b6b7b8b9c70b1b2b3b4b5b6b7b8b9c80b1b2b3b4b5b6b7b8b9c9
0b1b2b3b4b5b6b7b8b9d200b1b2aAbBc3b4b5b6b7aAc8b9aAd10b1b2b3b4b5aAc6aAc7b8b9c20b1b2b3b4b5b6b7aAc8b9c3
0b1b2b3b4b5b6b7b8b9c40b1b2b3b4b5b6b7b8b9c50b1b2b3b4b5b6b7b8b9c60b1b2b3b4b5b6b7aAc8b9c70b1b2b3b4b5b6
b7b8b9c80b1b2b3b4b5b6b7b8b9aAd90b1b2b3b4aAc5b6b7b8b9aAe300b1b2b3b4b5b6b7b8b9aAd10b1b2b3b4b5b6b7b8b9
c20b1b2b3b4b5b6b7b8b9aAd30b1b2AbBbCc3b4b5b6aAbBbCc7b8b9c40b1b2b3b4b5b6b7b8b9c50b1b2b3b4b5b6b7b8b9aA
d60b1b2b3b4aAc5b6b7b8aAc9c70b1aAc2b3b4b5b6b7b8b9c80b1aAc2b3AbRAORRIh4b5b6aAc7b8b9c90b1b2b3EIGHTg4b5
b6b7b8b9d400b1b2b3b4b5b6b7b8b9c10AENDLOGOGRAMMARKqBEGINLOGOGRAMMARKs1b2b3b4b5b6b7b8b9c20b1b2b3b4b5b
6b7b8b9c30b1b2b3b4b5b6b7b8b9c40b1b2b3b4b5b6b7b8b9c50aAc1b2b3b4b5b6b7aAc8b9c60b1b2b3b4b5b6b7b8b9c70b
1b2b3b4b5b6b7b8b9c80b1b2b3b4b5b6b7b8b9c90b1b2b3b4b5b6b7d501b2b3b4b5b6b7b8b9c10b1b2b3b4b5b6b7b8b9c20
b1b2b3b4b5b6b7b8b9c30sMICALHEARTnCHOReDWITHDOTiGERSYMBOLiLEaWITHSINSIDEhUNDERBARoRYFACEgSTROMSIGNjU
ISHEDFACElKHcTaENNAWITHBARSmICLOCKWISECLOSEDCIRCLEARROWqONTOURINTEGRALpDOWNWARDSANDUPWARDSOPENCIRCL
EARROWSÉGAPPEDCIRCLEARROWrINTEGRATIONlOPENCIRCLEARROWpTOPSEMICIRCLEARROWrRIANGLEHEADEDBOTTOMUSHAPED
ARROWsLEFTUSHAPEDARROWqOPENCIRCLEARROWpRIGHTUSHAPEDARROWrTOPUSHAPEDARROWÏPCbLFUNCTIONALSYMBOLALPHAa
UNDERBARnBACKSLASHBARmCIRCLEBACKSLASHjDIAERESISjJOTdSTARcILEfUNDERBARnOMMABARiDELDIAERESISjSTILEfTA
STILEfUNDERBARjILDEhIAMONDUNDERBARoOWNCARETTILDEkSHOESTILEjTACKJOTdUNDERBARmWARDSVANEnEPSILONUNDERB
ARpGREATERTHANDIAERESISuIBEAMeOTAaUNDERBARmJOTDIAERESISjUNDERBARlLEFTSHOESTILEjWARDSVANEnOMEGAaUNDE
RBARnQUADaBACKSLASHjCIRCLEfOLONfDELaTAeIAMONDfVIDEfOWNCARETfWARDSARROWoEQUALfGREATERTHANlJOTdLEFTWA
RDSARROWmSSTHANiNOTEQUALiQUESTIONiRIGHTWARDSARROWpSLASHfUPCARETfWARDSARROWoOTEQUADeUNDERBARnRHOcIGH
TWARDSVANEoSEMICOLONUNDERBARqLASHBARhQUISHQUADjTARDIAERESISlILETILDEkTILDEDIAERESISoUPCARETTILDEkSH
OEJOThTACKDIAERESISjJOTdOVERBARlWARDSVANElZILDEwOLLONeSTROPHEiPLICATIONPROGRAMCOMMANDwROACHESTHELIM
ITnXIMATELYBUTNOTACTUALLYEQUALTOvEQUALOREQUALTOjTOaORTHEIMAGEOFÅQUARIUShRABICBASELINEROUNDDOTqCOMMA
eURLYDAMMAaTANiFATHAaTANiKASRAaTANnDAMMAaISOLATEDFORMmMEDIALFORMkTANaISOLATEDFORMpWITHDOTkTESEPARAT
ORmECIMALSEPARATORpISPUTEDENDOFAYAHqOUBLEDMADDAgRIGHTARROWHEADABOVEaWITHDOTÆEMPTYCENTREHIGHSTOPiLOW
STOPrNDOFAYAHeTEXTMARKnFATHAaISOLATEDFORMmMEDIALFORMkTANaISOLATEDFORMpWITHDOTABOVEiRINGeTWODOTSpIVE
POINTEDSTARoOOTNOTEMARKERnULLSTOPiHALFMADDAOVERMADDAqMZAABOVEfBELOWkINDICCUBEROOTiDIGITEIGHTfFIVEdO
UReNINEeONEdSEVENeIXdTHREEeWOdZEROjFOURTHROOTkPERMILLESIGNjTENTHOUSANDSIGNvVERTEDDAMMAnKASRAaISOLAT
EDFORMmMEDIALFORMkTANaISOLATEDFORMpWITHDOTBELOWrLARGECIRCLEBELOWlROUNDDOTABOVEfBELOWfINSIDECIRCLEBE
LOWÃEFTARROWHEADABOVEfBELOWqTTERAEbFRICANFEHdNOONeQAFaWITHTHREEDOTSABOVEÁINaFINALFORMjINITIALFORMkS
OLATEDFORMmMEDIALFORMkWITHTHREEDOTSABOVEfBELOWfPOINTINGDOWNWARDSABOVEÄWODOTSABOVEfVERTICALLYABOVEÂL
EFaFINALFORMjISOLATEDFORMmMAKSURAaFINALFORMjISOLATEDFORMtWASLAaFINALFORMjISOLATEDFORMqITHATTACHEDBO
TTOMRIGHTKASRAaANDDOTABOVEiLEFTRINGÁFATHAfKASRAfLEFTHAMZAfROUNDDOTmRIGHTHAMZAfROUNDDOTmOUNDDOTABOVE
fBELOWnTOPRIGHTFATHAaANDDOTABOVEiLEFTRINGÆDOTABOVEiEXTENDEDARABICINDICDIGITTHREEABOVEjWOABOVEÆHAMZA
ABOVEaFINALFORMjISOLATEDFORMrBELOWaFINALFORMjISOLATEDFORMwLEFTMIDDLESTROKEqMADDAABOVEaFINALFORMjISO
LATEDFORMwRIGHTMIDDLESTROKEaANDDOTABOVEiLEFTRINGÂWAVYHAMZAABOVEfBELOWwBEEHaFINALFORMjINITIALFORMkSO
LATEDFORMmMEDIALFORMmHaEHaFINALFORMjINITIALFORMkSOLATEDFORMmMEDIALFORMmFINALFORMjINITIALFORMkSOLATE
DFORMmMEDIALFORMkWITHDOTBELOWANDTHREEDOTSABOVEzHAMZAABOVEkINVERTEDSMALLVBELOWtSMALLMEEMABOVEjVaBELO
WlTHREEDOTSHORIZONTALLYBELOWrPOINTINGUPWARDSBELOWaANDTWODOTSABOVEÑWODOTSBELOWANDDOTABOVEÄDADaFINALF
ORMjINITIALFORMkSOLATEDFORMmMEDIALFORMkWITHDOTBELOWnHALaFINALFORMjISOLATEDFORMpLaFINALFORMjISOLATED
FORMmWITHDOTBELOWaANDSMALLTAHtFOURDOTSABOVEnINVERTEDSMALLVBELOWlVjRINGeTHREEDOTSABOVEDOWNWARDSoBELO
WnWODOTSVERTICALLYBELOWANDSMALLTAHÍDAHALaFINALFORMjISOLATEDFORMpLaFINALFORMjISOLATEDFORMpOTLESSBEHd
FEHdQAFjULaFINALFORMjISOLATEDFORMoYEHaFINALFORMjINITIALFORMkSOLATEDFORMmMEDIALFORMoEaFINALFORMjINIT
IALFORMkSOLATEDFORMmMEDIALFORMlFARSIYEHaFINALFORMjINITIALFORMkSOLATEDFORMmMEDIALFORMkWITHEXTENDEDAR
ABICINDICDIGITFOURBELOWjTHREEABOVEjWOABOVEÆINVERTEDVjTHREEDOTSABOVEnWODOTSABOVExEHaFINALFORMjINITIA
LFORMkSOLATEDFORMmMEDIALFORMkWITHDOTBELOWaANDTHREEDOTSABOVEwMOVEDBELOWnTHREEDOTSBELOWfPOINTINGUPWAR
DSBELOWÂWODOTSBELOWtGAFaFINALFORMjINITIALFORMkSOLATEDFORMmMEDIALFORMkWITHINVERTEDSTROKEoRINGeTHREED
OTSABOVEnWODOTSBELOWsHAINaFINALFORMjINITIALFORMkSOLATEDFORMmMEDIALFORMkWITHDOTBELOWiTHREEDOTSABOVEw
RAFdUEHaFINALFORMjINITIALFORMkSOLATEDFORMmMEDIALFORMoHAHaFINALFORMjINITIALFORMkSOLATEDFORMmMEDIALFO
RMkWITHEXTENDEDARABICINDICDIGITFOURBELOWÇHAMZAABOVEkINVERTEDSMALLVBELOWtSMALLARABICLETTERTAHABOVEeN
DTWODOTSkBELOWzTHREEDOTSABOVEfPOINTINGUPWARDSBELOWÂWODOTSABOVEfVERTICALABOVEzMZAaISOLATEDFORMqEHaDO
ACHASHMEEaFINALFORMjINITIALFORMkSOLATEDFORMmMEDIALFORMvFINALFORMjGOALaFINALFORMjINITIALFORMkSOLATED
FORMmMEDIALFORMkWITHHAMZAABOVEsINITIALFORMkSOLATEDFORMmMEDIALFORMkWITHINVERTEDVjYEHABOVEaFINALFORMj
ISOLATEDFORMÀIGHHAMZAaALEFeWAWdYEHmJEEMaFINALFORMjINITIALFORMkSOLATEDFORMmMEDIALFORMkWITHTHREEDOTSA
BOVEfBELOWnWODOTSABOVEsHaFINALFORMjISOLATEDFORMpKAFaFINALFORMjINITIALFORMkSOLATEDFORMmMEDIALFORMkWI
THDOTABOVEfBELOWiRINGeTHREEDOTSBELOWnWODOTSABOVErSHMIRIYEHkEHEHaFINALFORMjINITIALFORMkSOLATEDFORMmM
EDIALFORMkWITHDOTABOVEiSMALLVgTHREEDOTSABOVEfBELOWfPOINTINGUPWARDSBELOWÂWODOTSABOVEfVERTICALLYBELOW
ÄHAHaFINALFORMjINITIALFORMkSOLATEDFORMmMEDIALFORMnIRGHIZOEaFINALFORMjISOLATEDFORMoYUaFINALFORMjISOL
ATEDFORMvLAMaFINALFORMjINITIALFORMkSOLATEDFORMmMEDIALFORMkWITHBARdDOTABOVEgUBLEBARjSMALLARABICLETTE
RTAHABOVEuVgTHREEDOTSABOVEfBELOWuOWALEFhMARKdEEMaFINALFORMjINITIALFORMkSOLATEDFORMmMEDIALFORMkWITHD
OTABOVEfBELOWiTHREEDOTSABOVEwNGaFINALFORMjINITIALFORMkSOLATEDFORMmMEDIALFORMkOEHaFINALFORMjINITIALF
ORMkSOLATEDFORMmMEDIALFORMoOONaFINALFORMjGHUNNAaFINALFORMjISOLATEDFORMsINITIALFORMkSOLATEDFORMmMEDI
ALFORMkWITHDOTBELOWiINVERTEDSMALLVoRINGeSMALLTAHdVgTHREEDOTSABOVEnWODOTSBELOWtYEHaFINALFORMjINITIAL
FORMkSOLATEDFORMmMEDIALFORMoOEaFINALFORMjISOLATEDFORMoPEHaEHaFINALFORMjINITIALFORMkSOLATEDFORMmMEDI
ALFORMmFINALFORMjINITIALFORMkSOLATEDFORMmMEDIALFORMkWITHSMALLMEEMABOVEjVnQAFaFINALFORMjINITIALFORMk
SOLATEDFORMmMEDIALFORMkWITHDOTABOVEfBELOWaANDNODOTSABOVEwTHREEDOTSABOVEvREHaFINALFORMjISOLATEDFORMm
WITHDOTBELOWaANDDOTABOVEtFOURDOTSABOVEnHAMZAABOVEkINVERTEDVjLOOPeRINGeSMALLARABICLETTERTAHANDTWODOT
SzNOONABOVEjVaBELOWkTROKEgTWODOTSABOVEfVERTICALLYABOVEÂNOONaFINALFORMjINITIALFORMkSOLATEDFORMmMEDIA
LFORMoOHINGYAYEHkREHaFINALFORMjISOLATEDFORMqSADaFINALFORMjINITIALFORMkSOLATEDFORMmMEDIALFORMkWITHTH
REEDOTSABOVEfBELOWnWODOTSBELOWsEENaFINALFORMjINITIALFORMkSOLATEDFORMmMEDIALFORMkWITHDOTBELOWANDDOTA
BOVEtEXTENDEDARABICINDICDIGITFOURABOVEÇFOURDOTSABOVEnINVERTEDVjSMALLARABICLETTERTAHANDTWODOTSÄTHREE
DOTSBELOWaANDTHREEDOTSABOVEÄWODOTSVERTICALLYABOVEÃHEENaFINALFORMjINITIALFORMkSOLATEDFORMmMEDIALFORM
kWITHDOTBELOWqTRAIGHTWAWkUPERSCRIPTALEFoWASHKAFiTAHaFINALFORMjINITIALFORMkSOLATEDFORMmMEDIALFORMkWI
THDOTBELOWiTHREEDOTSABOVEfBELOWnWODOTSABOVEsCHEHaEHaFINALFORMjINITIALFORMkSOLATEDFORMmMEDIALFORMmFI
NALFORMjINITIALFORMkSOLATEDFORMmMEDIALFORMkWITHDOTABOVEiSMALLVoEHaEHaFINALFORMjINITIALFORMkSOLATEDF
ORMmMEDIALFORMmFINALFORMjINITIALFORMkSOLATEDFORMmMARBUTAaFINALFORMjGOALeISOLATEDFORMsEDIALFORMkWITH
RINGeSMALLTEHABOVEiVgTHREEDOTSABOVEDOWNWARDSÃHALaFINALFORMjISOLATEDFORMoEHaFINALFORMjINITIALFORMkSO
LATEDFORMmMEDIALFORMmINYEHgTEHaEHaFINALFORMjINITIALFORMkSOLATEDFORMmMEDIALFORMmFINALFORMjINITIALFOR
MkSOLATEDFORMmMEDIALFORMkWITHSMALLVoUaFINALFORMjIGHURKAZAKHKIRGHIZALEFMAKSURAINITIALFORMlMEDIALFORM
ÌSOLATEDFORMmWITHHAMZAABOVEaISOLATEDFORMÁVEaFINALFORMjHaFINALFORMjINITIALFORMkSOLATEDFORMmMEDIALFOR
MlISOLATEDFORMoWAWaFINALFORMjISOLATEDFORMmWITHDOTABOVEfWITHINjEXTENDEDARABICINDICDIGITTHREEABOVEjWO
ABOVEÆHAMZAABOVEaFINALFORMjISOLATEDFORMwRINGeTWODOTSABOVEtYEHaBARREEaFINALFORMjISOLATEDFORMmWITHEXT
ENDEDARABICINDICDIGITTHREEABOVEjWOABOVEÆHAMZAABOVEaFINALFORMjISOLATEDFORMÆFINALFORMjINITIALFORMkSOL
ATEDFORMmMEDIALFORMkWITHHAMZAABOVEaFINALFORMjINITIALFORMkSOLATEDFORMmMEDIALFORMuSMALLVgTAILdHREEDOT
SBELOWnWODOTSBELOWANDDOTABOVEiHAMZAABOVEkSMALLNOONABOVEÉUaFINALFORMjISOLATEDFORMoZAHaFINALFORMjINIT
IALFORMkSOLATEDFORMmMEDIALFORMlINaFINALFORMjISOLATEDFORMmWITHINVERTEDVABOVEÁIGATUREAINWITHALEFMAKSU
RAFINALFORMjISOLATEDFORMxJEEMINITIALFORMkSOLATEDFORMmWITHMEEMFINALFORMjINITIALFORMxMEEMINITIALFORMk
SOLATEDFORMmWITHALEFMAKSURAFINALFORMuMEEMFINALFORMjINITIALFORMpYEHFINALFORMuYEHFINALFORMjISOLATEDFO
RMvKBARISOLATEDFORMqLAYHAAASSALAAMkEISOLATEDFORMnIASSALAAMbTUWASSALAAMsMAAASSALAAMjSSALAAMnEFMAKSUR
AWITHSUPERSCRIPTALEFFINALFORMjISOLATEDFORMÌWITHFATHATANFINALFORMjISOLATEDFORMÀLAHISOLATEDFORMqZZAWA
JALLkBEHWITHALEFMAKSURAFINALFORMjISOLATEDFORMxHAHINITIALFORMkSOLATEDFORMmWITHYEHFINALFORMsEHINITIAL
FORMlMEDIALFORMnJEEMINITIALFORMkSOLATEDFORMqKHAHINITIALFORMkSOLATEDFORMmWITHYEHFINALFORMuMEEMFINALF
ORMjINITIALFORMkSOLATEDFORMmMEDIALFORMoNOONFINALFORMnREHFINALFORMmYEHFINALFORMjISOLATEDFORMpZAINFIN
ALFORMtISMILLAHARRAHMANARRAHEEMzDADWITHALEFMAKSURAFINALFORMjISOLATEDFORMxHAHINITIALFORMkSOLATEDFORM
mWITHALEFMAKSURAFINALFORMuYEHFINALFORMtJEEMINITIALFORMkSOLATEDFORMqKHAHINITIALFORMkSOLATEDFORMmWITH
MEEMFINALFORMjINITIALFORMxMEEMINITIALFORMkSOLATEDFORMqREHFINALFORMjISOLATEDFORMpYEHFINALFORMjISOLAT
EDFORMwFEHWITHALEFMAKSURAFINALFORMjISOLATEDFORMxHAHINITIALFORMkSOLATEDFORMpJEEMINITIALFORMkSOLATEDF
ORMqKHAHINITIALFORMkSOLATEDFORMmWITHMEEMFINALFORMjINITIALFORMxMEEMINITIALFORMkSOLATEDFORMmWITHYEHFI
NALFORMuYEHFINALFORMjISOLATEDFORMwGHAINWITHALEFMAKSURAFINALFORMjISOLATEDFORMxJEEMINITIALFORMkSOLATE
DFORMqMEEMINITIALFORMkSOLATEDFORMmWITHALEFMAKSURAFINALFORMuMEEMFINALFORMnYEHFINALFORMuYEHFINALFORMj
ISOLATEDFORMyHAHWITHALEFMAKSURAFINALFORMjISOLATEDFORMxJEEMINITIALFORMkSOLATEDFORMmWITHYEHFINALFORMu
MEEMINITIALFORMkSOLATEDFORMmWITHALEFMAKSURAFINALFORMuYEHFINALFORMuYEHFINALFORMjISOLATEDFORMvEHWITHA
LEFMAKSURAISOLATEDFORMxJEEMINITIALFORMkSOLATEDFORMqMEEMINITIALFORMkSOLATEDFORMmWITHJEEMINITIALFORMp
MEEMINITIALFORMxSUPERSCRIPTALEFINITIALFORMÀYEHISOLATEDFORMwJALLAJALALOUHOUoEEMWITHALEFMAKSURAFINALF
ORMjISOLATEDFORMxHAHINITIALFORMkSOLATEDFORMmWITHALEFMAKSURAFINALFORMuYEHFINALFORMtMEEMINITIALFORMkS
OLATEDFORMmWITHALEFMAKSURAFINALFORMuHAHFINALFORMjINITIALFORMoYEHFINALFORMuYEHFINALFORMjISOLATEDFORM
xKAFWITHALEFFINALFORMjISOLATEDFORMmMAKSURAFINALFORMjISOLATEDFORMxHAHINITIALFORMkSOLATEDFORMpJEEMINI
TIALFORMkSOLATEDFORMqKHAHINITIALFORMkSOLATEDFORMqLAMFINALFORMjINITIALFORMkSOLATEDFORMmMEDIALFORMnME
EMFINALFORMjINITIALFORMkSOLATEDFORMmMEDIALFORMkWITHMEEMFINALFORMjINITIALFORMpYEHFINALFORMuYEHFINALF
ORMjISOLATEDFORMvHAHWITHALEFMAKSURAFINALFORMjISOLATEDFORMxHAHISOLATEDFORMpJEEMINITIALFORMkSOLATEDFO
RMqMEEMINITIALFORMkSOLATEDFORMqYEHFINALFORMjISOLATEDFORMxLAMWITHALEFFINALFORMjISOLATEDFORMmMAKSURAF
INALFORMjISOLATEDFORMtWITHHAMZAABOVEFINALFORMjISOLATEDFORMrBELOWFINALFORMjISOLATEDFORMwMADDAABOVEFI
NALFORMjISOLATEDFORMÄHAHINITIALFORMkSOLATEDFORMmWITHALEFMAKSURAFINALFORMuMEEMFINALFORMjINITIALFORMp
YEHFINALFORMsEHINITIALFORMoJEEMINITIALFORMkSOLATEDFORMmWITHJEEMFINALFORMjINITIALFORMpMEEMFINALFORMj
INITIALFORMpYEHFINALFORMuKHAHINITIALFORMkSOLATEDFORMmWITHMEEMFINALFORMjINITIALFORMxMEEMFINALFORMjIN
ITIALFORMkSOLATEDFORMmMEDIALFORMkWITHHAHFINALFORMjINITIALFORMoYEHFINALFORMuYEHFINALFORMjISOLATEDFOR
MwMEEMWITHALEFFINALFORMjMAKSURAISOLATEDFORMxHAHINITIALFORMkSOLATEDFORMmWITHJEEMINITIALFORMpMEEMINIT
IALFORMpYEHFINALFORMtJEEMINITIALFORMkSOLATEDFORMmWITHHAHINITIALFORMoKHAHINITIALFORMpMEEMINITIALFORM
pYEHFINALFORMuKHAHINITIALFORMkSOLATEDFORMmWITHJEEMINITIALFORMpMEEMINITIALFORMpYEHFINALFORMuMEEMFINA
LFORMjINITIALFORMkSOLATEDFORMmWITHYEHFINALFORMuYEHISOLATEDFORMwOHAMMADISOLATEDFORMuNOONWITHALEFMAKS
URAFINALFORMjISOLATEDFORMxHAHINITIALFORMkSOLATEDFORMmWITHALEFMAKSURAFINALFORMuMEEMINITIALFORMpYEHFI
NALFORMsEHINITIALFORMlMEDIALFORMnJEEMINITIALFORMkSOLATEDFORMmWITHALEFMAKSURAFINALFORMuHAHFINALFORMj
INITIALFORMoMEEMFINALFORMjINITIALFORMpYEHFINALFORMuKHAHINITIALFORMkSOLATEDFORMqMEEMFINALFORMjINITIA
LFORMkSOLATEDFORMmMEDIALFORMkWITHALEFMAKSURAFINALFORMuYEHFINALFORMuNOONFINALFORMnREHFINALFORMmYEHFI
NALFORMjISOLATEDFORMpZAINFINALFORMvQAFWITHALEFMAKSURAFINALFORMjISOLATEDFORMxHAHINITIALFORMkSOLATEDF
ORMpMEEMINITIALFORMkSOLATEDFORMmWITHHAHFINALFORMjINITIALFORMoMEEMFINALFORMnYEHFINALFORMuYEHFINALFOR
MjISOLATEDFORMuLAUSEDASKORANICSTOPSIGNISOLATEDFORMÊUDDISASIRRAHnRADIALLAAHUANHaAAcUMaAAdNNAqHIMAHUA
LLAAHgMALLAAHnSOULISOLATEDFORMrEHWITHSUPERSCRIPTALEFISOLATEDFORMÈSADWITHALEFMAKSURAFINALFORMjISOLAT
EDFORMxHAHINITIALFORMkSOLATEDFORMmWITHHAHFINALFORMjINITIALFORMoYEHFINALFORMtKHAHINITIALFORMpMEEMINI
TIALFORMkSOLATEDFORMmWITHMEEMFINALFORMjINITIALFORMxREHFINALFORMjISOLATEDFORMpYEHFINALFORMjISOLATEDF
ORMuLAAMUHUALAYNAAmMISOLATEDFORMoLAISOLATEDFORMmLLAAHUALAYHIWAAALIHqHOUALAYHEWASALLAMqUALAYHIWAAALI
HEEWASALLAMÂUSEDASKORANICSTOPSIGNISOLATEDFORMËEENWITHALEFMAKSURAFINALFORMjISOLATEDFORMxHAHINITIALFO
RMkSOLATEDFORMmMEDIALFORMkWITHJEEMINITIALFORMvEHINITIALFORMlMEDIALFORMnJEEMINITIALFORMkSOLATEDFORMm
MEDIALFORMkWITHALEFMAKSURAFINALFORMuHAHINITIALFORMwKHAHINITIALFORMkSOLATEDFORMmMEDIALFORMkWITHALEFM
AKSURAFINALFORMuYEHFINALFORMuMEEMINITIALFORMkSOLATEDFORMmMEDIALFORMkWITHHAHFINALFORMjINITIALFORMoJE
EMINITIALFORMpMEEMFINALFORMjINITIALFORMxREHFINALFORMjISOLATEDFORMpYEHFINALFORMjISOLATEDFORMwHADDAWI
THDAMMAISOLATEDFORMmMEDIALFORMkTANISOLATEDFORMuFATHAISOLATEDFORMmMEDIALFORMpKASRAISOLATEDFORMmMEDIA
LFORMkTANISOLATEDFORMuSUPERSCRIPTALEFISOLATEDFORMÉEENWITHALEFMAKSURAFINALFORMjISOLATEDFORMxHAHFINAL
FORMjINITIALFORMkSOLATEDFORMmMEDIALFORMkWITHMEEMFINALFORMjINITIALFORMpYEHFINALFORMsEHINITIALFORMlME
DIALFORMnJEEMFINALFORMjINITIALFORMkSOLATEDFORMmMEDIALFORMkWITHYEHFINALFORMuKHAHFINALFORMjINITIALFOR
MkSOLATEDFORMmMEDIALFORMoMEEMFINALFORMjINITIALFORMkSOLATEDFORMmMEDIALFORMkWITHKHAHFINALFORMjINITIAL
FORMpMEEMFINALFORMjINITIALFORMxREHFINALFORMjISOLATEDFORMpYEHFINALFORMjISOLATEDFORMxUBHAANAHUWATAAAL
AAtTABAARAKAWATAAALAAqHWITHALEFMAKSURAFINALFORMjISOLATEDFORMxHAHINITIALFORMkSOLATEDFORMpMEEMINITIAL
FORMkSOLATEDFORMmMEDIALFORMkWITHHAHFINALFORMjINITIALFORMoMEEMINITIALFORMpYEHFINALFORMuYEHFINALFORMj
ISOLATEDFORMvEHWITHALEFMAKSURAFINALFORMjISOLATEDFORMxHAHINITIALFORMkSOLATEDFORMmWITHJEEMFINALFORMjI
NITIALFORMpMEEMINITIALFORMvEHINITIALFORMlMEDIALFORMnJEEMINITIALFORMkSOLATEDFORMmWITHALEFMAKSURAFINA
LFORMuMEEMINITIALFORMpYEHFINALFORMuKHAHINITIALFORMkSOLATEDFORMmWITHALEFMAKSURAFINALFORMuMEEMINITIAL
FORMpYEHFINALFORMuMEEMFINALFORMjINITIALFORMkSOLATEDFORMmMEDIALFORMkWITHALEFMAKSURAFINALFORMuHAHINIT
IALFORMoJEEMINITIALFORMpKHAHINITIALFORMpYEHFINALFORMuNOONFINALFORMnREHFINALFORMmYEHFINALFORMjISOLAT
EDFORMpZAINFINALFORMtHALWITHSUPERSCRIPTALEFISOLATEDFORMÇEHWITHALEFMAKSURAFINALFORMjISOLATEDFORMxHEH
MEDIALFORMnJEEMISOLATEDFORMqMEEMFINALFORMjINITIALFORMkSOLATEDFORMmMEDIALFORMoNOONFINALFORMnREHFINAL
FORMmYEHFINALFORMjISOLATEDFORMpZAINFINALFORMvUIGHURKIRGHIZYEHWITHHAMZAABOVEWITHALEFMAKSURAFINALFORM
jINITIALFORMkSOLATEDFORMßWASALLAMISOLATEDFORMuYEHWITHALEFMAKSURAFINALFORMjISOLATEDFORMxHAHINITIALFO
RMkSOLATEDFORMmWITHYEHFINALFORMrMZAABOVEWITHAEFINALFORMjISOLATEDFORMnLEFFINALFORMjISOLATEDFORMmMAKS
URAFINALFORMjISOLATEDFORMxEFINALFORMjINITIALFORMkSOLATEDFORMnHAHINITIALFORMkSOLATEDFORMoEHINITIALFO
RMlMEDIALFORMnJEEMINITIALFORMkSOLATEDFORMqKHAHINITIALFORMpMEEMFINALFORMjINITIALFORMkSOLATEDFORMmMED
IALFORMoNOONFINALFORMnOEFINALFORMjISOLATEDFORMoREHFINALFORMmUFINALFORMjISOLATEDFORMnWAWFINALFORMjIS
OLATEDFORMpYEHFINALFORMjISOLATEDFORMoUFINALFORMjISOLATEDFORMoZAINFINALFORMÀEHINITIALFORMlMEDIALFORM
nJEEMINITIALFORMkSOLATEDFORMmWITHYEHFINALFORMuKHAHINITIALFORMkSOLATEDFORMqMEEMFINALFORMjINITIALFORM
kSOLATEDFORMmMEDIALFORMkWITHMEEMFINALFORMjINITIALFORMpYEHFINALFORMuNOONFINALFORMnREHFINALFORMmYEHFI
NALFORMjISOLATEDFORMpZAINFINALFORMuZAHWITHMEEMINITIALFORMkSOLATEDFORMmMEDIALFORMÃMADDAHABOVEgWAAJIB
jRKNOONGHUNNAkSIDEWAYSNOONGHUNNAuTHEMATICALAINcLEFeBEHdDADbLcOTLESSBEHdFEHdNOONeQAFiUBLESTRUCKAINdB
EHdDADbLdFEHdGHAINfHAHdJEEMeKHAHeLAMdMEEMeNOONeQAFdREHdSADcEENdHEENfTAHcEHcHALcEHeWAWdYEHdZAHbINqFE
HdGHAINfHAHdINITIALAINdBEHdDADdFEHdGHAINfHAHcEHdJEEMeKAFcHAHeLAMdMEEMeNOONeQAFdSADcEENdHEENfTEHcHEH
eYEHkJEEMeKAFcHAHeLAMcOOPEDAINcLEFeBEHdDADbLdFEHdGHAINfHAHcEHdJEEMeKHAHeLAMdMEEMeNOONeQAFdREHdSADcE
ENdHEENfTAHcEHcHALcEHeWAWdYEHdZAHbINkMEEMeNOONeOPERATORHAHWITHDALkMEEMWITHHAHWITHTATWEELÄQAFdREHdSA
DcEENdHEENeTRETCHEDAINdBEHdDADcOTLESSBEHdFEHkFEHdGHAINfHAHcEHdJEEMeKAFcHAHeMEEMeNOONeQAFdSADcEENdHE
ENfTAHcEHcHEHeYEHdZAHmTAHbILEDAINdDADcOTLESSNOONeQAFkGHAINfHAHdJEEMeKHAHeLAMdNOONeQAFdSADcEENdHEENf
YEHiEHcHALcEHeWAWdYEHdZAHbINqNUMBERMARKABOVEjSIGNkOPENDAMMATANiFATHATANiKASRATANmPERCENTSIGNkIASTRE
MARKABOVEpLACEOFSAJDAHmOETICVERSESIGNnUNDMARKABOVEoQUESTIONMARKmRAISEDROUNDDOTmYcEVERSEDDAMMAmIGHTA
RROWHEADABOVEaWITHDOTmBELOWsOUNDEDHIGHSTOPWITHFILLEDCENTREÅSEMICOLONiHADDAaISOLATEDFORMmMEDIALFORMp
IGNALAYHEASSALLAMoMISRAfRADIALLAHOUANHUnHMATULLAHALAYHErSAFHAdLLALLAHOUALAYHEWASSALLAMyMVATeNAHeIND
HIAMPERSANDjPOSTPOSITIONMENvTAKHALLUSmMALLDAMMAfFARSIYEHgTHAfHIGHAINdDOTLESSHEADOFKHAHrFARSIYEHhOOT
NOTEMARKERoJEEMeLAMALEFgIGATUREALEFWITHLAMWITHYEHkYEHBARREErQAFWITHLAMWITHALEFMAKSURAzSADWITHLAMWIT
HALEFMAKSURAÇMADDAeEEMINITIALFORMkSOLATEDFORMqNOONaWITHKASRAnQAFdROUNDEDZEROlSADcEENdIGNSAFHAjTAHcH
REEDOTSjUPRIGHTRECTANGULARZEROwWAWcORDALJUZeNNISFfRRUBeSSAJDAgTHTHALATHAlQIFdSAHbKTAfWAQFAjYEHaBARR
EEWITHTWODOTSBELOWzZAHbINiKASRAfLOWMEEMeNOONWITHKASRAnSEENeWAWcORDIMAALAfSHMAAMhMADDAfQASReSAKTAfTA
SHEELoWAWdYEHhTARTOFRUBELHIZBpUBSCRIPTALEFlKUNaBELOWfISOLATEDFORMmMEDIALFORMnPERSCRIPTALEFMOKHASSAS
xYMBOLDOTABOVEfBELOWgUBLEVERTICALBARBELOWwFOURDOTSABOVEfBELOWnRINGeSMALLTAHABOVEfBELOWnTHREEDOTSABO
VEfBELOWfPOINTINGDOWNWARDSABOVEfBELOWÄWODOTSABOVEfBELOWfVERTICALLYABOVEfBELOWwWASLAABOVEqTAILFRAGME
NTkTWEELaWITHFATHATANABOVEnOVERSTRUCKHAMZAfWAWnTWODOTSBELOWwHOUSANDSSEPARATORrONELOOPABOVEfBELOWjON
EDOTABOVEfBELOWlTWODOTSABOVEfBELOWpRIPLEDOTPUNCTUATIONMARKxURNEDDAMMABELOWqVERTICALTAILlOWELSIGNDOT
BELOWiINVERTEDSMALLVABOVEtSMALLVABOVEuWAVYHAMZABELOWoZWARAKAYmCbIESdMENIANABBREVIATIONMARKpPOSTROPH
EkCAPITALLETTERAYBdBENdCAbHAbEHdOcDAcECHcHbTcFEHdGHADdIMdHOcINIdJAbHEHeKEHbNdLIWNeMENdNOWdOHcPEHcIW
ReRAbEHdSEHcHAdTIWNdOcVEWcOcXEHdYIaWNeZAbHEpOMMAfDRAMSIGNiEMPHASISMARKlXCLAMATIONMARKpFULLSTOPiHYPH
ENgMODIFIERLETTERLEFTHALFRINGÀQUESTIONMARKmSMALLLETTERAYBdBENdCAbHAbEHdOcDAcECHcHbTcFEHdGHADdIMdHOc
INIdJAbHEHeKEHbNdLIWNeMENdNOWdOHcPEHcIWReRAbEHdSEHcHAdTIWNdObURNEDAYBjVEWcOcXEHdYIaWITHSTROKEjNeZAb
HEiIGATUREECHYIWNhMENECHdINIdNOWdXEHgVEWNOWzROWHEADSHAPEDPOINTERrPOINTINGDOWNWARDSTHENCURVINGLEFTWA
RDSjRIGHTWARDSÄRIGHTWARDSTHENCURVINGDOWNWARDSjSOUTHWESTjUPWARDSÂUPWARDSTHENNORTHWESTÅTICULATEDLORRY
mSTPALETTEmSCENDINGNODEkIASYMBOLjSERTIONhTERISKaOPERATORjMfONISHEDFACElRAEAdONOMICALSYMBOLFORURANUS
zYMPTOTICALLYEQUALTOuTHLETICSHOEkOMSYMBOLjUBERGINEhSTRALSIGNjTOMATEDTELLERMACHINErOBILEgRICKSHAWlVE
STANABBREVIATIONMARKqLETTERAaAaNbOcEaEcNbOcBEbHEdCEcDEbHEdEaEcFEcGEbGEcHEdHEbMEdIaIcJEcKEcLEcMEcNEb
GEbVEcYEdNEcYEdOaOcPEcREcSEbHEbYEdSHEeTEbHEcTEdUaUcVEcXEbVEcYEdYEbYEdZEbHEoOCADOgXEdBABYaANGELfBOTT
LEgCHICKfSYMBOLiCKOFENVELOPEkSLANTEDSOUTHARROWWITHHOOKEDTAILiRIZONTALTAILÈPACEfTILTEDSHADOWEDWHITER
IGHTWARDSARROWÈWITHLEFTWARDSARROWABOVEyONcTRIANCAMELlDGERdMINTONRACQUETANDSHUTTLECOCKÂGELcGAGECLAIM
jUETTEBREADlLINESEADEGADEGiCARIKPAMUNGKAHhRERENhSIKIjDIGITEIGHTfFIVEdOUReNINEeONEdSEVENeIXdTHREEeWO
dZEROjLETTERAIKARAfKARAaTEDUNGkRCHAICJNYAkSYURASASAKlBAaKEMBANGjCAaLACAgDAaMADUdURDAALPAPRANAjMAHAP
RANAqEFSASAKgKARAfGAaGORAgHAcIKARAaTEDUNGlJAaJERAgKAaFSASAKgMAHAPRANAkHOTSASAKjLAaLENGAaTEDUNGnMAcN
AaRAMBAThGAcYAdOKARAaTEDUNGlPAaKAPALhRAaREPAaTEDUNGmSAaSAGAcPAgTAaLATIKfMURDAMAHAPRANAoTAWAfZIRSASA
KjUKARAaTEDUNGlVESASAKhWAcYAcZALSASAKoMUSICALSYMBOLCOMBININGBENDEfENDEPfGONGeJEGOGANhKEMPLIaWITHJEG
OGANnULaWITHJEGOGANrTEGEHoDAENGdINGdNGaGEDEeSURANGjENGcUNGeINGdONGdUNGeLEFTHANDCLOSEDPLAKcUKkOPENPA
NGdINGdUNGqRIGHTHANDCLOSEDTAKcUKjOPENDAGcUGÃPAMADAaLANTANGkENENGgNTIaLANTANGmSIGNBISAHfCECEKfREREKA
NhSURANGgULUCANDRAgRICEMmVOWELSIGNLALENGAaTEDUNGnPEPETaTEDUNGlRAREPAaTEDUNGmSUKUaILUTiTALINGaREPAaT
EDUNGkTEDUNGlEDUNGgULUaSARIqWINDUkLETSHOEShOFYARNfONaSPOKEDASTERISKqTBOLDSCRIPTXjXaWITHBALLOTfOLDCH
ECKfSCRIPTXlCHECKfLIGHTXgSCRIPTXhXiSCRIPTXhXfMUMCOLONdMBININGMARKKOQNDONhTUKWENTIStMAfFULLSTOPiLETT
ERAbEEcFAAMAEfEEcOMcUcIbKAbENbTbUXdIbOaGHOMeVUUePAcUbYEEeLAbEEEEeIbOQcUcMaAbBAAcENdEEEEdNcIbObUcNAb
DAAdGAbGAcKWAENgIbJAEMdEEcUAEeSHAdTEEcUUdUaAEdYIdObPAbEEbUXdHASEAFIRIeGBIEEFONhHEUAEGHEUAEgRAEjKAFA
cQcETbUKEUTNDAjPOQdUOQeLAPAQeETKUTfOMMAEfUaAEPfMAEKEUPeMaBGBIEEgKPENeVEUXfNYIdSIdNSUAEfPPIEEThBANYI
dQdEUNJOMNDEUQlGBASAfONNGGEUAETjOMEUTdPUQgVEUAENGAMkNAAMFONfQcDAANGGEUAETjLEERAEWAkENcGANGUeGENdKUE
MFONeNZEUMjIKAdJAMdKAARAEfINDIfSHAbIEEfTAPaMFAAeNTAAgOQPENgYETcIaTMONGKEUAEQnZAMFONfUNMEUTiPAAMbRAE
eLEERAEWAiMSHAEfSHAEfETcONMFONPIPAEMBAcGBIEEpPANJIPIPAEMBAcGBIEEsUPdROMdSEUNYAMgHINDAPANJIiRAEeOQNS
HUTYUMkUENSHUEThMdISAdONJAMeQbTcUUdTEUAENdTEUWENiITAMFONhUAEPdMAEMBAiUNKNOWNgYUQNAEhVEEeBFEEbUXeGHE
UGHENbUAEMlKAMcEUAEMdPUQdYEUXgIEEMdQdLAANAEeMNSHUTNYAMlETcOMNTEUMiMAaNJEUAENAgUQAgBAARAEeMAELEEhEUR
IeITMBAAKETjUOQeEUQbTNGGEETjFIYAQeONTEUAEQjONTIEENiNDUNJAAgGGAAMdEUMBUfUOQaLARGEjKINDIMVOPjOMdSENcH
UETfTIEESHEUOQkYAEMAEfINTEUMiPARUMeEESHIfITcUNGAAMhSAKEUAEgETTUeHETNJAQfUAEQTUiIEEdUEdTAAMdUMAEMGBI
EEjNSIEEhVEUMeWUAETfYAFULEERAEWAlEURAEhCBUNGeFUEdGBAYIeHAPbRAEgKAAcENFATIGUEhLAWeTbUKAQdMbSEUXdHEUA
EPjPARAQfUOPNKAARAEjTdLAMbPcIQcUcMAEMBAdSIdKEUAERIhNSIEEgBAACABBAGETREElPICKEThNYIeEEKEETfRAEdUMbXd
IaRIEENfTcUAEMdEdGBASAQgIEEdUAEeNANSANAQgQcDAMbPcEUAEREEfTdIDAdOMBUfGAQcGENcUaAENNYAMhEETdMbONeKAQc
UEMAEMBAjOMdJAEMcMcEEEEdUXdUEQeSAbEUAENfHAQdOMcUNbOTNGOMiTAAcENbUNGBAgUMBITgYIRMKPARAQMEUNoZAbEUMfP
ENcINbRIEENhRUcSETFONeUXdHIQcUEQeUAETfTAASHAEgETbUTEUXgITAYUEeUAEPhVEUAEPENfXeWANGKUOQhUPdYAAcEUQdU
MaUOMAEgWOQgDFAAcEUFEUAETjGHAAcEUAEgKETbUAETMEUNhMbOTMBUAEhPdUaNbOMcQcWAETeYEEeLEEEEdTbUAEPdMdIEEdO
QcUMdMaAENJETfLEERIgBAAaSEVENhUOdEEEEdUNbTdFEUAEcTdIEEdOaNdGBEUNdIEEdOFUMgONIdUbVOPeNDAMcEEbUXdONdG
GAAMaAEePcEUXdUOMdWAENfKAPcEUAEQdRIeIEEdUNcYEEfIbJAPcEUAEMdTdIaEEdUEQeSHEEcUTdIEEPbTeUMdTEEbUMdUUdU
bYAMcETcIbUEePAPcEEbUTAEfIPcUQbUTeRAEMdENMUCHeOLDfIIdSAPbQcEUAEQfHEEbUAEcXdIIcOQcUcOTcUAEcEbUdTAEcE
EEEdUAENdNbTdIbOQcUaOTeWAPcUAENfYAEMMAEgENcUOMbPcWOQgEAbFAaQcEEcOMcUCALLeEaTcIbREMEDYiGBETbUXeHAAMA
EfETbUAEcNbXdOMeIbKETbUAEcXdIbObPEUXeUETcOPcTdLAAMcPbQcEUAEMfOMbONbTcQcUcMAaEaMcPbQcBEEbUMeENcFEUQe
GBAbENeIaEEdONcUAEdVIdNAaEcDAAMYHOUSEhSOFTNESSjPcIAQcQcUNdGAbEUREUTgGEEEEdUAEaTfUAESHAENYAMkPbRAEfK
AaAMIeEUAEMdXdUMbPdOPbQcUAEaTfJAEMLIfEEaEPOCHgUXeKOMdSHIEEdUEbOPfTAPcUMdYIBETWEENhCLEAVERjZAQcUQeOb
PAAaMcPEOPLEfLURALhEEMcUTbXdIaEEQcTdOaONdUaAEbQcEbMdRAEbQcEUXdIMGBAgSAAcEEbTcHEUAEQfIQcOaQdOMcUAENf
TAAaQcENNTEUMhMbQcENbUaAEQfOOaNcQcUAEcMaAEfVEEbUAEeOMdWEUXdUEbOdYAPcEUAEaTdMbXdIEEcTcOQCOVERfSWIMMI
NGkUAENdEQcNbQeFEEcFOMdKAbENbTcObPAcUbYEEeLAbIbOQdMaAbBAAcENdEEEEeOcNDAAdGGAcKWAENgIbJAEMdUAEeSHAdT
EEdUaAEdYIdPEEbUXdUAEeREEbNbUXdIEEcIcUcSAMBAeEUXdHIIcObUcIbUUdTAAbEcETdUbVUEQeWAbUEdYAbOQiIbUAEcEdR
AEcEEbNbUXdIEEcIcUcSAMBAeEUXdHEUXdIIcObUcIbUUdTAAbEcENbTcIcUbWAbUEdYAbOQcUQjNJAEMLIhQUESTIONMARKmSE
MICOLONmNANAdJOcKaNOTEWITHDOLLARSIGNkEUROSIGNiPOUNDSIGNjYENSIGNrRBERPOLEhCHARTfOFSOAPhSEBALLfKETaBA
LLANDHOOPoSAVAHCOMBININGHIGHLOWTONEhTONEiLOWMIDTONEhTONEhMIDTONEqFULLSTOPiLETTERAbBAcCEcDHIIdOcEaEb
NNIeFAcGAHcBUdHWAHeIbJOcKAbPAHeMBEdOaOcPAcSEcTOcUaWUdVUcWAaDDAfYEINdIEdZOoTaAKCONSONANTSIGNHbNGpLET
TERAbBAcCAcDAcGAcHAcIbJAcKAROBAgLAcMAaNDAILINGHAcNAcSAlBAdNAbDAcGAcORTHERNTAjYAdPAaKPAKWAiRAcSAbIMA
LUNGUNAbGAcHAcLAcMAcPAcRAcSAcWAcYAlOUTHERNTAkUbWAcYAiPANGOLATfONGONANkSIGNTOMPIiYMBOLBINDUJUDULfNAM
ETEKhPANGOLAThINARBORASvVOWELSIGNEaEcIbKAROIbOfObPAKPAKEhUaFORSIMALUNGUNSAÁHaTUBeTERYgEACHWITHUMBRE
LLAoMEDASCENDINGMUSICALNOTESvDESCENDINGMUSICALNOTESwEIGHTHNOTESlSIXTEENTHNOTESrNScRDEDPERSONjFACEfT
INGHEARTjVEReCAUSEfDbERMUGeTLEeLaLaHOPBELLhPEPPERgSYMBOLgWITHCANCELLATIONSTROKEyNGALIABBREVIATIONSI
GNpNJIdULENGTHMARKmCURRENCYDENOMINATORSIXTEENsNUMERATORFOUReONEaLESSTHANTHEDENOMINATORzTHREEeWOuDIG
ITEIGHTfFIVEdOUReNINEeONEdSEVENeIXdTHREEeWOdZEROjGANDAMARKjISSHARgLETTERAaAbIbUcBAbHAdCAbHAdDAbDAbH
AdHAdEbGAbHAdHAcIaIcJAbHAdKAbHAaNDATAiLAcMAcNAbGAcNAcYAdObPAbHAdRAaWITHLOWERDIAGONALnMIDDLEDIAGONAL
tHAcRAdSAbHAcSAdTAbHAcTAbHAeUaUcVEDICANUSVARAmOCALICLaLcRaRjYAbYAjRUPEEMARKeSIGNjSANDHIMARKjIGNANUS
VARAhVAGRAHAiCANDRABINDUlNUKTAfVIRAMAeSARGAlVOWELSIGNAAbIbUcEbIaIcObUaUcVOCALICLaLcRaRwTARROWPOINTI
NGDOWNWARDSTHENNORTHEASTÉOBOXfZENERINGaWITHCIRCLEtTSYMBOLgWEENfVERAGEBOXkHAIKSUKIDANDAeIGITEIGHTfFI
VEdOUReNINEeONEdSEVENeIXdTHREEeWOdZEROiOUBLEDANDAlGAPFILLER1b2kHUNDREDSUNITMARKqLETTERAaAbIbUcBAbHA
dCAbHAdDAbDAbHAdHAdEbGAbHAdHAcIaIcJAbHAdKAbHAdLAcMAcNAbGAcNAcYAdObPAbHAdRAcSAbHAcSAdTAbHAcTAbHAeUaU
cVAbOCALICLbRaRjYAiNUMBEREIGHTaYgFIFTYdVEdORTYdUReNINEaTYgONEdSEVENaTYgIXaTYfTENcHIRTYeREEeWENTYeOj
SIGNANUSVARAhVAGRAHAiCANDRABINDUlVIRAMAeSARGAlVOWELSIGNAAbIbUcEbIaIcObUaUcVOCALICLbRaRsWORDSEPARATO
RvICYCLEbISThGREVERSESOLIDUSoSOLIDUSiKINIeLLEDCAPfIARDShOHAZARDSIGNlRDbTHDAYCAKEkSONdTCOINSIGNiINGL
IPiLACKBOWTIEgCENTREWHITESTARoHESSBISHOPaROTATEDNINETYDEGREESnTWOHUNDREDSEVENTYDEGREESËEQUIHOPPERaR
OTATEDNINETYDEGREESÄKINGaROTATEDNINETYDEGREESnTWOHUNDREDSEVENTYDEGREESÈNIGHTaBISHOPgQUEENfROOKcTATE
DFORTYFIVEDEGREESqNINETYDEGREESnONEHUNDREDTHIRTYFIVEDEGREESÁTHREEHUNDREDFIFTEENDEGREESzWOHUNDREDSEV
ENTYDEGREESoTWENTYFIVEDEGREESÎPAWNaROTATEDNINETYDEGREESnTWOHUNDREDSEVENTYDEGREESÉQUEENaROTATEDNINET
YDEGREESnTWOHUNDREDSEVENTYDEGREESÊROOKaROTATEDNINETYDEGREESnTWOHUNDREDSEVENTYDEGREESÉTURNEDBISHOPgK
INGdNIGHTgPAWNeQUEENfROOKoIRCLEaFORRECORDjWITHDOWNARROWjTWOWHITEDOTSmWHITEDOTRIGHTwLUBSUIThROSSONSH
IELDmURVEDDOWNWARDSANDLEFTWARDSARROWoRIGHTWARDSARROWÁLEFTWARDSANDDOWNWARDSARROWoUPWARDSARROWyRIGHTW
ARDSANDDOWNWARDSARROWoUPWARDSARROWzUPWARDSANDLEFTWARDSARROWoRIGHTWARDSARROWÅDIAMONDaCENTREDhMINUSWH
ITEXlONCROSShSUITeWITHDOWNARROWtOWNPOINTINGBACKHANDINDEXnDOUBLETRIANGLEoISOSCELESRIGHTTRIANGLEwSMAL
LTRIANGLEnTRIANGLEqWARDSEQUILATERALARROWHEADÂRAUGHTSKINGeMANjOPLEThFEATHEREDNORTHEASTARROWoRIGHTWAR
DSARROWpSOUTHEASTARROWwLAGcORETTEhOLDEReURPOINTEDSTARpHARDSHELLFLOPPYDISKsEARTaSUIThXAGONgORIZONTAL
ELLIPSEpURGLASSjLARGECIRCLEgSQUAREkEFTLANEMERGEjPOINTINGBACKHANDINDEXnDOUBLETRIANGLEaWITHVERTICALBA
RÃINDEXeSOSCELESRIGHTTRIANGLEwPOINTERhSMALLTRIANGLEnTRIANGLEqWARDSBULLETgEQUILATERALARROWHEADÁTTERC
APITALCbHbIbRbZnOWERLEFTTRIANGLEmRIGHTTRIANGLEqZENGEhMEDIUMDIAMONDgOWNPOINTINGTRIANGLEaCENTREDÁLEFT
POINTINGTRIANGLEaCENTREDÀOZENGEhRIGHTPOINTINGTRIANGLEaCENTREDÂSMALLDIAMONDhLOZENGEhSQUAREkQUAREgUPP
OINTINGTRIANGLEaCENTREDÄOONLILITHkNIBdOCTAGONhPARALLELOGRAMmENNANTeTAGONhUSHPINhQUESTIONMARKORNAMEN
TuRECTANGLEiIGHTPOINTINGBACKHANDINDEXnDOUBLETRIANGLEaWITHVERTICALBARÃINDEXeSOSCELESRIGHTTRIANGLEwPE
NTAGONhOINTERhSMALLTRIANGLEnTRIANGLEaWITHDOUBLEVERTICALBARËWARDSARROWaHEADjBULLETgEQUILATERALARROWH
EADÃOSETTEhSAFETYSCISSORSnCISSORShHOGIPIECEjKULLANDCROSSBONESrLIGHTLYSMALLCIRCLEgSQUAREsMALLDIAMOND
hLOZENGEhSQUAREfTARhILINGFACEkNOWMANgPADESUITiQUAREaBUTTONgCENTREDhFORSTOPmTARdUNWITHRAYSlTELEPHONE
iINYDIAMONDhLOZENGEhSQUAREjOUCHTONETELEPHONErRUCKeWOWAYLEFTWAYTRAFFICuUNIVERSALRECYCLINGSYMBOLxPPER
LEFTTRIANGLEmRIGHTTRIANGLEpOINTINGBACKHANDINDEXnDOUBLETRIANGLEoISOSCELESRIGHTTRIANGLEwSMALLTRIANGLE
nTRIANGLEqWARDSEQUILATERALARROWHEADÁVERTICALELLIPSEhRECTANGLEoYSMALLDIAMONDhLOZENGEhSQUARErNKSYMBOL
jOCKSEXTANT1a2a3a4a5b6c5a6c6c4a5a6c6c5a6c6c3a4a5a6c6c56c6c4a5a6c6c5a6c6c2a3a4a5a6c6c5a6c6c4a5a6d5a6
c6c3a4a5a6c6c5a6c6c4a5a6c6c5a6c6kSSOMeWFISHgUEBERRIESgOOKeHEARTiOARcLDEIGHTSPOKEDASTERISKtFIVESPOKE
DASTERISKsGREEKCROSSkSALTIREgIXSPOKEDASTERISKrWHITECIRCLEgSQUAREnMaBcNEcOKaMARKaTABSiScMERANGhPOMOF
OFINALLETTERGbHbKbPbTmLETTERAaHbIaNNdMbNaGbNcUaNNeBaUcCaHcDbEaEbHbIbNaGbNcRcFbGaHbNbUbWcHbIaHbMbNNa
NdRbUcJaIcKaWcLaHcMbNaGaGcNcOaEbMbNGbNcObUbWITHDOTABOVEnPbQbRbSaHcTbUaNNdVbXbZaHbIbYoTTLEWITHPOPPIN
GCORKrOMARCANTICLOCKWISEARROWvCURLYBRACKETmHALFBLACKCIRCLElINTEGRALiLEFTPARENTHESISpRIGHTPARENTHESI
SuLEFTCORNERfROPeHALFBRACKETpPARENTHESISlRIGHTCORNERfROPeHALFBRACKETqSQUAREBRACKETaOVERTOPSQUAREBRA
CKETÇTORTOISESHELLBRACKETyUQUETaOFFLOWERSoWANDARROWiLINGdOFHYGIEIAjWITHSPOONkTIEaWITHLEFTHALFBLACKn
RIGHTHALFBLACKwXDRAWINGSDOUBLEDOWNANDHORIZONTALkLEFTeRIGHTmHORIZONTALkUPANDHORIZONTALkLEFTeRIGHTkVE
RTICALaANDHORIZONTALkLEFTeRIGHTuWNDOUBLEANDHORIZONTALSINGLEqLEFTSINGLEkRIGHTSINGLEuHEAVYANDHORIZONT
ALLIGHTpLEFTLIGHTfUPLIGHTlRIGHTLIGHTfUPLIGHTmUPHORIZONTALLIGHTzLIGHTANDHORIZONTALHEAVYpLEFTHEAVYfUP
HEAVYlRIGHTHEAVYfUPHEAVYmUPHORIZONTALHEAVYzSINGLEANDHORIZONTALDOUBLEqLEFTDOUBLEkRIGHTDOUBLEyHEAVYDO
UBLEDASHHORIZONTALkVERTICALqWNaANDHORIZONTALkLEFTeRIGHTmHORIZONTALkLEFTaANDLIGHTRIGHTrQUADRUPLEDASH
HORIZONTALkVERTICALvRIGHTfTRIPLEDASHHORIZONTALkVERTICALsUPaANDHORIZONTALkLEFTdIGHTDOWNjRIGHTkVERTIC
ALaANDHORIZONTALkLEFTeRIGHTvLEFTDOWNHEAVYANDRIGHTUPLIGHTyHEAVYANDRIGHTDOWNLIGHTjUPLIGHThVERTICALLIG
HTÀLIGHTANDRIGHTDOWNHEAVYjUPHEAVYhVERTICALHEAVYÀUPHEAVYANDRIGHTDOWNLIGHTÁIGHTARCDOWNANDLEFTeRIGHTmU
PANDLEFTeRIGHTnDIAGONALCROSSfDIAMONDhMIDDLELEFTTOLOWERCENTREaTOMIDDLERIGHTyUPPERCENTRETOMIDDLERIGHT
aTOLOWERCENTREÑRIGHTTOLOWERCENTRElUPPERCENTRETOMIDDLELEFTTOLOWERCENTRE×UPPERCENTRETOMIDDLELEFTaANDM
IDDLERIGHTTOLOWERCENTREÁTOLOWERCENTREaTOMIDDLERIGHTÄRIGHTaANDMIDDLELEFTTOLOWERCENTREÀTOLOWERCENTREa
TOMIDDLELEFTÒLEFTTOLOWERRIGHTqRIGHTTOLOWERLEFTÂOUBLEDASHHORIZONTALkVERTICALqWNaANDHORIZONTALkLEFTeR
IGHTmHORIZONTALaWITHVERTICALSTROKEÂLEFTaANDHEAVYRIGHTrQUADRUPLEDASHHORIZONTALkVERTICALvRIGHTfTRIPLE
DASHHORIZONTALkVERTICALsUPaANDHEAVYDOWNiORIZONTALkLEFTeRIGHTkVERTICALaANDHORIZONTALkLEFTeRIGHTvRIGH
TDOWNHEAVYANDLEFTUPLIGHTxHEAVYANDLEFTDOWNLIGHTjUPLIGHThVERTICALLIGHTzLIGHTANDLEFTDOWNHEAVYjUPHEAVYh
VERTICALHEAVYzUPHEAVYANDLEFTDOWNLIGHTÂUPDOUBLEANDHORIZONTALSINGLEqLEFTSINGLEkRIGHTSINGLEuHEAVYANDDO
WNHORIZONTALLIGHTtHORIZONTALLIGHTpLEFTDOWNLIGHTjLIGHTjRIGHTDOWNLIGHTjLIGHTsLIGHTANDDOWNHORIZONTALHE
AVYtHORIZONTALHEAVYpLEFTDOWNHEAVYjHEAVYjRIGHTDOWNHEAVYjHEAVYsSINGLEANDHORIZONTALDOUBLEqLEFTDOUBLEkR
IGHTDOUBLEwVERTICALDOUBLEANDHORIZONTALSINGLEqLEFTSINGLEkRIGHTSINGLEuHEAVYANDHORIZONTALLIGHTpLEFTLIG
HTjRIGHTLIGHTsLIGHTANDHORIZONTALHEAVYpLEFTHEAVYjRIGHTHEAVYsSINGLEANDHORIZONTALDOUBLEqLEFTDOUBLEkRIG
HTDOUBLEÊINGGLOVEjYaSSYMBOLjPHcRAHMIDANDAeIGITEIGHTfFIVEdOUReNINEeONEdSEVENeIXdTHREEeWOdZEROiOUBLED
ANDAlLETTERAaAbIbUcBAbHAdCAbHAdDAbDAbHAdHAdEbGAbHAdHAcIaIcJAbHAdKAbHAdLAbLAdMAcNAbGAcNAcYAdOaLDTAMI
LLLAbLAeNNNAeRRAdSHORTEbOoPAbHAdRAcSAbHAcSAdTAbHAcTAbHAeUaUcVAbOCALICLaLcRaRjYAiNUMBEREIGHTaYgFIFTY
dVEdORTYdUReJOINERgNINEaTYgONEaHUNDREDhTHOUSANDlSEVENaTYgIXaTYfTENcHIRTYeREEeWENTYeOjPUNCTUATIONCRE
SCENTBARlDOTbUBLEDOTjLINEdOTUSqSIGNANUSVARAiCANDRABINDUlJIHVAMULIYAlOLDTAMILVIRAMAoUPADHMANIYAlVISA
RGAlVIRAMAfOWELSIGNAAbIbUcBHATTIPROLUAAnEbIaIcOaLDTAMILSHORTEbOoUaUcVOCALICLaLcRaRvILLEPATTERNBLANK
fDOTS1a2a3a4a5a6a7a8c8c7a8c8c6a7a8c8c7a8c8c5a6a7a8c8c7a8c8c6a7a8c8c7a8c8c4a5a6a7a8c8c7a8c8c6a7a8c8c
7a8c8c5a6a7a8c8c7a8c8c6a7a8c8c7a8c8c3a4a5a6a7a8c8c7a8c8c6a7a8c8c7a8c8c5a6a7a8c8c7a8c8c6a7a8c8c7a8c8
c4a5a6a7a8c8c7a8c8c6a7a8c8c7a8c8c5a6a7a8c8c7a8c8c6a7a8c8c7a8c8c2a3a4a5a6a7a8c8c7a8c8c6a7a8c8c7a8c8c
5a6a7a8c8c7a8c8c6a7a8c8c7a8c8c4a5a6a7a8c8c7a8c8c6a7a8c8c7a8c8c5a6a7a8c8c7a8c8c6a7a8c8c7a8c8c3a4a5a6
a7a8c8c7a8c8c6a7a8c8c7a8c8c5a6a7a8c8c7a8c8c6a7a8c8c7a8c8c4a5a6a7a8c8c7a8c8c6a7a8c8c7a8c8c5a6a7a8c8c
7a8c8c6a7a8c8c7a8c8pNdEADbKPERMITTEDHEREoSTFEEDINGkVEdICKcDEWITHVEILjGEATNIGHTkEFCASEeSeOCCOLIfKENB
ARdCIRCLEWITHNORTHWESTARROWyHEARTiOMcWNHEARTjSbUBBLESbTEAhCKETeGaINESEENDOFSECTIONmLETTERAbBAcCAcDA
cGAcHAcJAcKAcLAcMAbPAdNAbGAbKAdRAcYAbCAePAcRAcSAcTAcVAcYAiPALLAWAhVOWELSIGNAEcEbIbObUqHIDLETTERAbBA
cDAcGAcHAcIbKAcLAcMAcNAbGAdPAcRAcSAcTAcUbWAcYAiVOWELSIGNIbUnILDINGCONSTRUCTIONsLLETaOPERATORkHORNaW
ITHSOUNDWAVESsSEYEgRRITOfSaSTOPeTINSILHOUETTEmSINSILHOUETTEpTTERaFLYiYTEORDERMARKlZANTINEMUSICALSYM
BOLAGOGIARGIbOTERIiGORGIbOTERIjMESIcTRIAgPOLIARGIeGORGInNATRICHISMAkTIKENOKYLISMAhMAjPESOEKFONITIKO
NkXONEOjLIcODERMAARCHAIONiNEOiSTROFOISYNDESMOSNEOmTELOUSICHIMATOSqSaDIPLIfNEOkTHEMAhRGONbSYNTHETONl
KTIKODIcGAcKEcNIcPAcVOUdZOjCHAMILIbONgOREVMAARCHAIONiNEOjROAKLITONgSPATHIgZYGOSkDASEIAfIARGONeSTOLI
APLIMEGALIfIKRIjDIPLIfTHESEOSnESISAPLIDYODODEKATApDIGRAMMOSEXDODEKATAtMONOGRAMMOSTESSERADODEKATAÀTE
TARTIMORIONmRIGRAMMOSOKTODODEKATAtTIMORIONpFTOGGOSOUjGORGONaPARESTIGMENONARISTERAANOdKATOmDEXIAxRAM
MAGGiPLIaARCHAIONmYOdEKSTREPTONjLAFRONgNARXISKAIFTHORAVOUrDOFONONiPEGERMAhTERONARGOSYNTHETONnPARAKA
LESMAqXOEKFONITIKONoFANEROSISDIFONIASiMONOFONIASkTETRAFONIAStHTORASKLIRONCHROMAVASISxTHORAARCHAIONa
DEYTEROUICHOUvDIATONIKIDIcKEcNANAdIANOdKATOgPAcZOlENARMONIOSANTIFONIAtIYFESISTETARTIMORIONuMALAKONC
HROMADIFONIASiMONOFONIASxNAOSICHOSiENANOgSKLIRONCHROMASYNAFIgVASISlDIATONONDIxGENIKIDIESISgYFESISlO
RGONARCHAIONiNEOANOdKATOhPARESTIGMENONARISTERAiDEXIAtSYNTHETONlTHMIKONNAPLOUNgDIPLOUNrRONTHISMATAmI
CHADINgMIDIARGONhFONONeTHORAbONjSAKIATELOUSICHIMATOStONARCHAIONiNEOhKATAVASMAdTROMIKONlHISTIhENTIMA
ARCHAIONiNEOANOdKATOeMESOhTAaARCHAIONiNEOANOdKATOeMESOpLASMAaANOdKATOjONTEVMAaALLOkRONISfUFISMAhRAT
IMAALLOdRCHAIONiNEOdTAdOKOUFISMAiYPORROONnEMASTIhYLISMAhLEIMMADYOCHRONONkENOSCHRONOUlIMISEOSCHRONOU
oTESSARONCHRONONoRIONCHRONONqMOIeYGISMAhMARTYRIAALLIDEYTEROSICHOSnPROTOSICHOSpDEYTEROSICHOSnLEGETOS
ICHOSmPLAGIOSICHOSfTETARTOSICHOStROTOSICHOSgVARYSICHOSpTETARTOSICHOSfLEGETOSICHOStRIFONIASgTOSICHOS
lVARYSICHOSrIKRONISONkNANAeOLIGONARCHAIONiNEOiMALONfXEIADIPLIfEKFONITIKONlIARCHAIONjNEOhYRANISMAARC
HAIONiNEOmPARAKALESMAARCHAIONiNEOjLITIKIaARCHAIONiNEOlICHONhELASTONaNEOjRISPOMENIjTASMAcTIbOKOUFISM
AoIASMAARCHAIONiNEOiSIFISTOLYGISMAhNaNEOePARAKALESMAlSYNAGMAmLIbONgRAPISMAgEVMAfSAXIMATAhEISMAaNEOi
IMANSISARSEOSaDISIMOUhTETRASIMOUjRISIMOUoTHESEOSaDISIMOUhTETRASIMOUjRISIMOUwTAVROSaAPODEXIAnIGMAeRA
GGISMATAlYNAGMAARCHAIONiMETASTAVROUlNEOhEVMAfRMAaTIKIjTELEIAeSSERAfTRAPLIhHEMAaAPLOUNgTISMOSESOcXOl
SKAIAPOTHESmITAeINAGMAgRIAbGORGONgPLIeOMIKOLYGISMAhNALLOdRCHAIONiNEOePARAKALESMAkSIFISTONjSYNAGMAoV
AREIADIPLIfEKFONITIKONlIARCHAIONjNEOhTHYfXIRONKLASMAlYFENANOdKATOfSISAPLIDYODODEKATApDIGRAMMOSEXDOD
EKATAtMONOGRAMMOSTESSERADODEKATAÀTRIGRAMMOSOKTODODEKATAtTIMORIONqPOKRISISaDIPLIlRROIfSILIÂCACTUSeDA
UNAeUCEUSgLENDARfLMEHANDiMERAaWITHFLASHmPINGfNaADIANSYLLABICSAaAaIbYcIaVILIKBhNbTHAPASCANMbSkYcBEAV
ERDENELbRkIBLECREEYjLACKFOOTAbEbIbKAbEbIbOcNAbEbIbOcObSbWaAbEbIbOlCaAaAaIcRRIERCHAbEaEcIbObUdDEEbNE
GEEeTALSgIbLAbEaEcIbObUcZAbEaEcIbObUdEEcGAaAcEaEcHAbEaEcIbObUcIbObUbWAbUdHaEEcIbWAbEaEcIbObUdIaNITI
ALZiJAbEaEcIbJAbEaEcIbObUcObUbWAdKHAbEaEcIbObUcKaAbEaEcIbObUdLAbEaEcHAbEaEcIbObUcIbObUcMAbEaEcIbObU
cNAbEaEcGbIbObUcPaAbEaEcIbObUcRAbEaEcIbObUcSAbEaEcHaAbEaEcIbObUcIbObUcTHAbEaEcIbObUcLAbEaEcHAbEaEcI
bObUcIbObUcSAbEaEcIbObUcTAbEaEcIbObSAbEaEcIbObUcUdWAbEaEcIbObUcYAbEaEcIbObUcZaAbEaEcIbObUiEbHISIGNg
IaIcOaOcWAaAcEbIaIcOaOeEaASTERNWhNcFaAaAaIdEbIaIbNALACUTEfBOTTOMHALFRINGoDOUBLEACUTEfSHORTVERTICALS
TROKESyWNTACKiGRAVEfMIDDLEDOTjPLUSeRAISEDDOTiIGHTHALFRINGlNGeSHORTHORIZONTALSTROKEuMALLRINGjTOPHALF
RINGpOaOcULLSTOPhWAAeGLOTTALSTOPlHKbYPHENgIaIbNcKaAaAaIcYcEbIaIcOaOcWaAaAbYcEbIaIcOaOeLaAaAaIcYcEbH
aAaAcIaIcOaOdIaIcOaOcWAaAcEbIaIcOaOeMaAaAaIcYcEaDIALLbRgHbIaIcOaOaSECREESKkWAaAcEbIaIcOaOeNaAaAaIcS
KAPICWAAeKWAAeMWAAeNWAAeSCWAdKWaAdPWAdTWAdWaAAeTWAAeWAAcOOdYWAAjTTILIKHAaAcIaIcOaOdSHRAaAcIaIcOaOlY
cCREETHEbIaIiEbGaAaAaIcIcIaIcOaOdHbIaIcNGaAaAcIaIcOaOeOaObYcUNAVIKHaAaAcEbIaIcOaOfUTHhWAaAcEbIaIcOa
OeOaJIBWAYCbKbMbNaWIaIcOaOePbSaHcThNbObYcPaAaAaIcYcEbIaIcOaObYcWAaAcEbIaIcOaObYeQaAaAaIcIcIaIcOaOdR
aAaAaIcYcCREEREbWEhEbIaIcOaOcWAaAcEEcIaIcOaOeSaAaAaIcYaISIHAbEbIbOaOdJIbUaUdMbSHAbEbIbOaOcWEeTHcYIh
EbHaAaAbYcEbIaIcOaObYcWAaAcEbIaIcOaObYeIaIcOaObUTHSLAVEYKAHcEHcIHcOHmYcPAbEbIbOcWaAaAcEbIaIcOaOeTaA
aAaIcYcEbHaAaAcCREETHaAaAcEbIaIcOaOiEbIaIcOaOcWAaAcEdIaIcLHAbEbIbOaOcWEeOaOcTAbEbHaAaAcEbIbOaOcWEdI
bOcWAaAcEbIaIcOaOdYAbEbIbOdWAaAbYcEaSTCREECWAaAcEbIaIcOaOeFWAAeKWAaAcEbIaIcOaOeLaAaAcEbOaOcWAaAcEbI
aIcOaOeMaWAaAcEbIaIcOaOeNWAaAcEdPaWAaAcEbIaIcOaOeRaAbEbIbObWAAeSHWAaAcEbIaIcOaOeWAaAcEbIaIcOaOeTHWA
AeWAaAcEbIaIcOaOeWAaAcEbIaIcOaOdYaWAaAcEbIaIcOaOiERNWhIaIcOaOaDSCREEFINALTHhTHaAbEbIbObWAaAcEEcIaIc
OaOoYaAaAaIcYcCREECOOdKOOdLOOdMOOdNOOdOOcPOOcWAAeSOOdTOOdWbYOOhEbIaIcOaObYcWAaAcEbIaIcOaOsCELaCHARA
CTERjLATIONXhTAGeRdDLEcYcNEDFOODhOEdPITULUMgRICORNhRDFILEBOXhINDEXaDIVIDERSoEOFcTaINSERTIONPOINTqIA
NLETTERAa2cBbC18c39dDa2cEa2cGa2cIaIcKa2cLaDa2dMaBa2b3b4dNaDbGbNcObPa2cQbRaRcSaHa2cSbTa2dTaTa2dUaUaU
a2b3bUeXkONbUSELHORSEkPENTRYSAWiSTREAMERjRIAGERETURNkOTdSLIDINGiSTLEeTaFACEaWITHTEARSOFJOYkWRYSMILE
rUCASIANALBANIANCITATIONMARKmLETTERALTcORdBETdCARbYNdHAaTcIbOYdYAWbYeDATcYANdZAYcYAYfEBbYNdFAMdGHEY
SeIMdHEYTeINYAdRBcWNdJAYNdHOXeKARcIWdLANcYITeMAQdNOWCeONcPENcIWReQARbYdRATdSEYKdHAaKcOYeTAScIWRdYAY
eVEYZeXEYNeYAYDdOWDeZARLdHAbILyTIONSIGNkCHcEDILLAdSIGNgLTICCROSSjNTRELINELOWLINEhOVERLINEiSYMBOLmSI
GNgRESeGJcHAINScRcKMAAUMARKgDANDAeIGITEIGHTfFIVEdOUReNINEeONEdSEVENeIXdTHREEeWOdZEROiOUBLEDANDAlLET
TERAAcBAAcHAAeCAAcHAAeDAAcDAAcHAAeHAAeEbGAAcHAAeHAAdIbJAAcHAAeKAAcHAAeLAAcHAAeMAAdNAAcGAAdNAAdYAAeP
AAcHAAeRAAdSAAdTAAcHAAdTAAcHAAfUbVAAdWAAdYAAcYAAkMAAYYAAhOMARKfQUESTIONMARKmSECTIONMARKkIGNANUSVARA
iCANDRABINDUlVISARGAlVIRAMAfOWELSIGNAaAbIbUcEaIcIaIcOaIcUaUoMCONSONANTSIGNFINALHbMbNGhLAcRAcWAcYApD
IGITEIGHTfFIVEdOUReNINEeONEdSEVENeIXdTHREEeWOdZEROjLETTERAaIcBAbBAcHAdCHAbHAeDAbDAcHAdEbFINALCHcGbK
bLbNaGcPbRbSScTbYgGAbHAdHAcIbJAbHAdKAbHAdLAcMAbUEdNAbGAbUEdHAbJAcUEdUEdObPAbHAcPAdRAcSAbSAdTAbHAdUb
VAcYAiPUNCTUATIONDANDAeOUBLEDANDAlSPIRALgTRIPLEDANDAwVOWELSIGNAAbIbUcEIcIaIcOaEcUaEmRACTERTABULATIO
NaSETdWITHJUSTIFICATIONÀIEiTWITHDOWNWARDSTRENDoUPWARDSTRENDaANDYENSIGNÃECKERBOARDaFILLlMARKgERINGME
GAPHONEnSEWEDGEiQUEREDFLAGkROKEELETTERAbDAbEbIbLAcObUbVcEbGAbEbIbObUbVcHAbEbIbNAcObUbVcIbKAcLAbEbIb
ObUbVcMAbEbIbObUbVcNAaHcEbIbObUbVcObQUAbEbIbObUbVdSaAbEbIbObUbVcTAbEbIbLAbEbIbObUbVcSAbEbIbObUbVdUb
VbWAbEbIbObUbVcYAbEbIbObUbViSMALLLETTERAbDAbEbIbLAcObUbVcEbGAbEbIbObUbVcHAbEbIbNAcObUbVcIbKAcLAbEbI
bObUbVcMAbEbIbObUbVcNAaHcEbIbObUbVcObQUAbEbIbObUbVdSaAbEbIbObUbVcTAbEbIbLAbEbIbObUbVcSAbEbIbObUbVdU
bVbWAbEbIbObUbVcYAbEbIbObUbVrRIESdYBLOSSOMkSTNUTgICKENeLDaRENCROSSINGnPMUNKfRHOcONeOCOLATEBARjPSTIC
KShRASMIANLETTERALEPHeYINeBETHeCURLEDWAWjDALETHgGIMELfHEaTHeKAPHeLAMEDHgMEMdNUNdPEcRESHeSAMEKHfHINd
MALLALEPHkTAWdWAWdYODHeZAYINlNUMBERFOUReONEaHUNDREDkTENcHREEeWENTYeOrRISTMASTREElURCHfINEMAeRCLEDAN
TICLOCKWISEARROWfROTATEDDIVISIONSIGNÅSTERISKOPERATORqBOLDXeULLETgCCbDbROSSFORMEEaWITHFOURDOTSiTWODO
TSrINGLANESiPOMMEEkWITHOVERLAIDBACKSLASHwDASHdIGITEIGHTfFIVEdOUReNINEeONEdSEVENeIXdTHREEeWOdZEROhVI
SIONSIGNdLASHmOLLARSIGNWITHOVERLAIDBACKSLASHÃTOPERATORlEQUALSgGREATERTHANlHANGULCHIEUCHaAhIEUCaAgHI
EUHaAgIEUNGaAbUgKHIEUKHaAhIYEOKaAhMIEUMaAgNIEUNaAgPHIEUPHaAhIEUPaAgRIEULaAgSIOSaAfTHIEUTHaAhIKEUTaA
mEAVYWHITERIGHTWARDSARROWyORIZONTALBARWITHNOTCHvUMANFIGURElIDEOGRAPHACCEPTfDVANTAGEiLLIANCEhTTENTIO
NjCENTREfONGRATULATIONmPYcRRECThEARTHeIGHTeNTERPRISEjXCELLENTjFEMALEfINANCIALhREcVEdOUReHAVEdIGHeIT
EMeKINDERGARTENlOTOeLABOReEFTdOWdMALEdEDICINEgTALeOONeNAMEdIGHTdNEeONEdPRINTfQUESTIONiRELIGIONgSOUR
CEfTdIGHTfSCHOOLfECRETeVENeIXcOCIETYgPECIALgTOCKdUDYeUITABLEgNbPERVISEjTENcHREEeWOdWATEReOODmNFORMA
TIONSOURCEqTALICLATINCAPITALLETTERCbRyVIDEDBYHORIZONTALBARANDTOPHALFDIVIDEDBYVERTICALBARÙKATAKANAAb
EbHAbEbIbObUcIbKAbEbIbObUcMAbEbIbObUcNAbEbIbObUcObRAbEbIbObUcSAbEbIbObUcTAbEbIbObUcUbWAbEbIbOcYAbOb
UjOREANCHARACTERCHAMKOgJUEUIuLATINCAPITALLETTERAbBbCbDbEbFbGbHbIbJbKbLbMbNbObPbQbRbSbTbUbVbWbXbYbZo
SMALLLETTERAbBbCbDbEbFbGbHbIbJbKbLbMbNbObPbQbRbSbTbUbVbWbXbYbZqESSTHANiMINUSeULTIPLICATIONSIGNWITHC
IRCUMFLEXACCENTÌNUMBEREIGHTEENdYONBLACKSQUAREsLEVENgFIFTEENdYaONBLACKSQUARErORTYaEIGHTfFIVEdOUReNIN
EeONBLACKSQUARElEdSEVENeIXdTHREEeWOgURTEENiNINETEENiSEVENTEENdYONBLACKSQUAREtIXTEENdYONBLACKSQUAREs
TENaONBLACKSQUAREpHIRTEENdYaEIGHTfFIVEdOUReNINEeONBLACKSQUARElEdSEVENeIXdTHREEeWOiWELVEdNTYaEIGHTfF
IVEdOUReNINEeONBLACKSQUARElEdSEVENeIXdTHREEeWOpOPENCENTREEIGHTPOINTEDSTARÀPARALLELhERPENDICULARmLUS
dOSTALMARKkREVERSESOLIDUSnINGOPERATORmSQUAREgTIMESeRIANGLEaDOWNmVERTICALBARlWHITEBULLETgSTARiZcXbZE
ROWITHSLASHoWITHALLBUTUPPERLEFTQUADRANTBLACKÂHORIZONTALBARnLEFTHALFBLACKmOWERHALFBLACKoRIGHTHALFBLA
CKoSMALLCIRCLETOTHERIGHTuUPERIMPOSEDXnTWOHORIZONTALSTROKESTOTHERIGHTÄUPPERHALFBLACKjRIGHTQUADRANTBL
ACKxVERTICALFILLsULATIONFUNCTIONoMFLEXACCENTlSTENTiTYSCAPEaATDUSKoJKRADICALBAMBOOfLUEdOLTOFCLOTHjNE
cXcRUSHONEdTWOiCHOKEeITYcVILIANhLIFFdOTHESgOWcSIMPLIFIEDBIRDeCARTeDRAGONgEATcVENeFISHdLYcROGeGATEdO
LDeHORSEfLEAFdONGeSALTdEEcHELLeILKdPEECHgTANNEDLEATHERmOOTHeURTLEgWINDpDEATHeIVINATIONjOGdEATONEdTH
REEeWOfWEcYEdFIREdOOTeGHOSTeRASSONEdTHREEeWOiHANDdEADbRTONEdTWOhORNeJADEdSIMPLIFIEDDRAGONgEVENeTOOT
HeURTLErKNIFEONEdTWOiLAMEFOUReONEdTHREEeWOgONGONEdTWOhMEATcSHdOONcRTAReTHEReUNDONEdTWOiNETFOUReONEd
THREEeWOgOLDdPAWONEdTWOfERSONgRAINcMbPcEPEATgSEALcCONDONEdTHREEeWOiHEEPeILKcMPLIFIEDHALFTREETRUNKmO
RNeWALKdHEATfYELLOWpMALLONEdTWOhNAKEdOUTONEdTWOhPIRITONEdTWOiUNdTABLEeHREADfIGEReURTLEgWALKONEdTWOf
TERONEdTWOhESTONEdTWOoSTROKEBXGdDbHaGbPaWGdXWGdZaGbTbWaGcZaPbZaGfNbPaDbGbZcQbSaGbPbTbWaGbZcZaWGcZdT
aNcWGcXGkLAMSHELLMOBILEPHONErPPERBOARDhINGHANDSSIGNoSSICALBUILDINGpEARSCREENSYMBOLpINKINGBEERMUGSiG
LASSESmPBOARDhOCKFACEEIGHTOCLOCKgTHIRTYkLEVENOCLOCKgTHIRTYmFIVEOCLOCKgTHIRTYjOUROCLOCKgTHIRTYkNINEO
CLOCKgTHIRTYkONEOCLOCKgTHIRTYjSEVENOCLOCKgTHIRTYkIXOCLOCKgTHIRTYjTENOCLOCKgTHIRTYiHREEOCLOCKgTHIRTY
kWELVEOCLOCKgTHIRTYkOOCLOCKgTHIRTYnWISECLOSEDCIRCLEARROWqONTOURINTEGRALpDOWNWARDSANDUPWARDSOPENCIRC
LEARROWSÉGAPPEDCIRCLEARROWrINTEGRALiOPENCIRCLEARROWpRIGHTANDLEFTSEMICIRCLEARROWSxWARDSANDLEFTWARDSO
PENCIRCLEARROWSaWITHCIRCLEDONEOVERLAYáTOPSEMICIRCLEARROWrRIANGLEHEADEDOPENCIRCLEARROWÉSEDBOOKeINTER
SECTIONWITHSERIFSwLOCKWITHKEYlMAILBOXWITHLOWEREDFLAGlRAISEDFLAGvSUBSETaOREQUALTOnPERSETaOREQUALTOrU
MBRELLAhNIONWITHSERIFSaANDSMASHPRODUCTÅUPeUDaWITHLIGHTNINGjRAINeSNOWeTORNADOnWNFACEiOATcCKROACHfTAI
LGLASSkONUTfFFINeINcLLISIONSYMBOLmONaEQUALSgSIGNhMBININGACUTEACCENTaBELOWlGRAVEACUTEkMACRONgTONEMAR
KmLMOSTEQUALTOABOVEfBELOWrNNUITYSYMBOLlTICLOCKWISEARROWABOVEkRINGOVERLAYxSTERISKABOVEfBELOWnBINDUBE
LOWjREVEaBELOWfMACRONjIDGEABOVEfBELOWlCANDRABINDUjRONaBELOWjEDILLAgIRCUMFLEXACCENTaBELOWuLOCKWISEAR
ROWABOVEkRINGOVERLAYtOMMAABOVEaRIGHTkBELOWiNJOININGMACRONaBELOWuYRILLICDASIAPNEUMATAnHUNDREDMILLION
SSIGNmTHOUSANDSSIGNuKAVYKAgLETTERAbBEbIGYUSgCHEdDEbJERVfEFbLbMbNbRbSaTEeFITAeGHEdHAaRDSIGNiIaEbOTIF
IEDAbBIGYUSgEjKAcLITTLEYUSjMONOGRAPHUKlOaMEGAfPEcSHAbCHAeOFTSIGNiTEbSEdUaKRAINIANIElVEcYATcERUdIbUc
ZEbHEjMILLIONSSIGNmPALATALIZATIONmYEROKgOKRYTIEhSILIPNEUMATAnSMALLLETTERBYELORUSSIANUKRAINIANIÇTENM
ILLIONSSIGNoHOUSANDMILLIONSSIGNtITLOaLEFTHALFiRIGHTHALFoVZMETnDELETIONMARKkVANAGARIDIGITEIGHTfFIVEd
OUReNINEeONEdSEVENeIXdTHREEeWOdZEROjLETTERAbKAcNAcPAcRAcUbVIiSIGNAVAGRAHAvIAERESISaBELOWfRINGmOTABO
VEaLEFTeRIGHTkBELOWaLEFTjTEDACUTEACCENTlGRAVEACCENTpUBLEACUTEACCENTlBREVEaBELOWkCIRCUMFLEXABOVEpDCI
RCUMFLEXACCENTrGRAVEACCENTlINVERTEDBREVEaBELOWsLOWLINEhMACRONaBELOWlOPENMARKBELOWmVERLINEiPARENTHES
ESABOVEpLUSSIGNABOVEfBELOWnRIGHTWARDSARROWBELOWsNGBELOWjTILDEaLEFTHALFiRIGHTHALFoVERTICALLINEABOVEf
BELOWjSTROKEOVERLAYzWNTACKBELOWjWARDSARROWoENCLOSINGCIRCLEaBACKSLASHpDIAMONDhKEYCAPgSCREENfQUAREgUP
WARDPOINTINGTRIANGLEÄQUALSSIGNBELOWpFERMATAgOURDOTSABOVEnGLAGOLITICLETTERAZUdBIGYUSfUKYeCHRIVIgDJER
VIfOBROfFITAdRITUfGLAGOLIhHERUeIaNITIALIZHEkOTATEDBIGYUSgSMALLYUSoZHEeKAKOeLJUDIJEhMYSLITEhNASHIfON
UdPOKOJIgRITSIfSHAbTAdLOVOeMALLYUSiTSIcVRIDOgUKUdVEDEeYATIdERIbUcSTUeObUcZEMLJAfHIVETEwRANTHADIGITF
IVEdOUReONEdSIXdTHREEeWOdZEROjLETTERAbKAcNAcPAcVImPHEMEJOINERlVEACCENTaBELOWjUTEGRAVEkMACRONgTONEMA
RKlEEKDIALYTIKATONOSoKORONIShMUSICALPENTASEMEjTETRASEMEiRISEMEoPERISPOMENIlYPOGEGRAMMENIsHOMOTHETIC
ABOVEnOKABOVEhRNeINFINITYgVERTEDBREVEaBELOWiIDGEBELOWlDOUBLEARCHABOVEfBELOWwSBELOWhKATAKANAHIRAGANA
SEMIVOICEDSOUNDMARKtVOICEDSOUNDMARKÃVYKAABOVELEFTeRIGHTqLATINLETTERSMALLCAPITALGbLbMbNbRtSMALLLETTE
RAaEbLPHAeObVbWITHDIAERESISoBaETAeCaCEDILLAiDbEaSHcTHdFaLATTENEDOPENAABOVEtGbHbIaNSULARDbGbRbTiKbLa
ONGSeWITHDOUBLEMIDDLETILDEwMbNbOaWITHDIAERESISjLIGHTCENTRALIZATIONSTROKEÄPbRaBELOWfROTUNDAiSaCHWAfT
aURNEDWBELOWmUaWITHDIAERESISjLIGHTCENTRALIZATIONSTROKEÄVbWaBELOWgXbZqEFTANGLEABOVEfBELOWjRROWABOVEf
BELOWfHEADABOVEfBELOWoHALFRINGABOVEfBELOWlRPOONABOVEmPARENTHESISABOVELEFTjBELOWLEFTuRIGHTARROWABOVE
fBELOWpTACKBELOWjWARDSARROWOVERLAYmHARPOONWITHBARBDOWNWARDSÆIGATURELEFTHALFaBELOWnRIGHTHALFaBELOWtH
TCENTRALIZATIONSTROKEBELOWÃONGDOUBLESOLIDUSOVERLAYuSOLIDUSOVERLAYnTROKEOVERLAYnVERTICALLINEOVERLAYv
WLINEhMACRONaACUTEfBELOWeREVEfGRAVEfLEFTHALFaBELOWnRIGHTHALFaBELOWtINUSSIGNBELOWoNOTTILDEABOVEmUMBE
RSIGNABOVEpOGONEKaABOVEkLDPERMICLETTERANcDOIdNENOEfSIIdZATAsPENMARKBELOWmVERLINEiPALATALIZEDHOOKBEL
OWsRENTHESESABOVEfBELOWfOVERLAYrLUSSIGNABOVEfBELOWnRETROFLEXHOOKBELOWqVERSEDCOMMAABOVElSOLIDUSOVERL
AYuIGHTARROWABOVEfBELOWfHEADABOVEeNDDOWNARROWHEADBELOWsUPARROWHEADBELOWtBELOWoHALFRINGABOVEfBELOWlR
POONABOVEmPARENTHESISABOVERIGHTkBELOWRIGHTvTACKBELOWjWARDSHARPOONWITHBARBDOWNWARDSÆNGABOVEfBELOWfOV
ERLAYlSEAGULLBELOWlHORTSOLIDUSOVERLAYnTROKEOVERLAYnVERTICALLINEOVERLAYxNAKEBELOWjQUAREBELOWeRACKETS
ABOVEsTRONGCENTRALIZATIONSTROKEBELOWÄUSPENSIONMARKoTHREEDOTSABOVEnILDEaBELOWfLEFTHALFBELOWnOVERLAYh
RIGHTHALFBELOWsRIPLEACUTEACCENTlDOTdUNDERDOTnURNEDCOMMAABOVEqUPTACKABOVEfBELOWjWARDSARROWBELOWqRABO
VEgSABOVEhVERTICALLINEABOVEfBELOWjTILDEnWIDEBRIDGEABOVElINVERTEDBRIDGEBELOWvGGLYLINEBELOWpXABOVEfBE
LOWfXBELOWhZIGZAGABOVEfBELOWrETcMAbERCIALATcMINUSSIGNqPASSdLEMENTgOSITIONSYMBOLnRESSIONjNFETTIBALLi
OUNDEDFACEkUSEDFACEjGRUENTWITHDOTABOVEsICALTAPERjJUNCTIONiSTRUCTIONSIGNeWORKERpTAINSASMEMBERgNORMAL
SUBGROUPaOREQUALTOzWITHLONGHORIZONTALSTROKEuOVERBARhVERTICALBARATENDOFHORIZONTALSTROKEÐINUOUSUNDERL
INESYMBOLvOURINTEGRALlROLKNOBSfSEQUENCEINTRODUCERwVENIENCESTOREoOKEDRICEgIEbNGfPTICCAPITALLETTERAKH
MIMICKHEIlLFAeBOHAIRICKHEImCROSSEDSHEIjYPTOGRAMMICEIEdGANGIAgNIcSHEIrDALDAeEIcIALECTPALEFeHORIeKAPA
eNIkEIEdFEIcIcGAMMAdNGIAgHATEdORIeIAUDAfKAPAdHEIcIcSIdLAULAeSHAPEDHAjMIcNIcOaLDCOPTICAINdDJAdESHdGA
NGIAgHAaTcEIcORIeOOUdSHEIcIMAlNUBIANNGIcYIdSHIMAfWAUlOUdPIbSIdROcSAMPIeHEIcIMAeIMAdOUdTAUcHETHEgUAc
VIDAeZATAqOMBININGNIABOVEhSPIRITUSASPERfLENISwEPACTDIGITEIGHTfFIVEdOUReNINEeONEdSEVENeIXdTHREEeWOiN
UMBEREIGHTHUNDREDhYgFIFTYdVEHUNDREDkORTYdURHUNDREDlNINEHUNDREDhTYgONEHUNDREDkSEVENHUNDREDhTYgIXHUND
REDhTYfTENcHIRTYeREEHUNDREDlWENTYeOHUNDREDqTHOUSANDSMARKsFRACTIONONEHALFoULLSTOPiMORPHOLOGICALDIVID
ERuOLDNUBIANDIRECTQUESTIONMARKsFULLSTOPiINDIRECTQUESTIONMARKuVERSEDIVIDERvSMALLLETTERAKHMIMICKHEIlL
FAeBOHAIRICKHEImCROSSEDSHEIjYPTOGRAMMICEIEdGANGIAgNIcSHEIrDALDAeEIcIALECTPALEFeHORIeKAPAeNIkEIEdFEI
cIcGAMMAdNGIAgHATEdORIeIAUDAfKAPAdHEIcIcSIdLAULAeSHAPEDHAjMIcNIcOaLDCOPTICAINdDJAdESHdGANGIAgHAaTcE
IcORIeOOUdSHEIcIMAlNUBIANNGIcYIdSHIMAfWAUlOUdPIbSIdROcSAMPIeHEIcIMAeIMAdOUdTAUcHETHEgUAcVIDAeZATAoY
MBOLKAIcHIROfMIROePIROeSHIMASIMAiTAUROShTAUROoYLEFTSYMBOLkRIGHTSIGNlRALcNISHVERSEDIVIDERqRESPONDSTO
lUCHANDLAMPjNTERBOREeSINKgINGRODTENSDIGITEIGHTfFIVEdOUReNINEeONEdSEVENeIXdTHREEeWOmUNITDIGITEIGHTfF
IVEdOUReNINEeONEdSEVENeIXdTHREEeWOuPLEWITHHEARTnWaFACEgRaABcEDITCARDhSCENTMOONkICKETaBATANDBALLpOCO
DILEgISSANTgSSEDFLAGSfNEGATIVESQUAREDLATINCAPITALLETTERPÈSWORDSiINGLANESiMARKeOFJERUSALEMjLORRAINEk
PATTYWITHLEFTCROSSBARmRIGHTCROSSBARvOMMEEaWITHHALFCIRCLEBELOWÁWNdUTCHdZEIROSIGNkYINGCATFACEhFACEhST
ALBALLkSIcUBEROOTgCUMBERgNEIFORMNUMERICSIGNEIGHTASHdDISHeGESH2fSHAR2fUaVARIANTFORMmVARIANTFORMUSSUa
3uLAMITEFIFTYeORTYfONETHIRDiTWOTHIRDSqFIVEASHaTENUhBAN2aVARIANTFORMoURUeDISHeGESH2bUfSHAR2bUeIXTHSD
ISHkUaVARIANTFORMpOURASHaTENUhBAN2aVARIANTFORMoURUeDISHeGESH2bUfSHAR2bUfUaVARIANTFORMmVARIANTFORMLI
MMUa4bAbBvNIGIDAESHdMINhNEASHdDISHeGESH2fSHAR2fUaVARIANTFORMmVARIANTFORMILIMMUa3b4bAwOLDASSYRIANONE
QUARTERhSIXTHsNEBAN2dURUeEIGHTHASHiSHE3fGESH2bUfHALFGURhQUARTERASHdGURkSHARUfTHIRDDISHeVARIANTFORMA
uSEVENASHdDISHeGESH2fSHAR2fUaVARIANTFORMmVARIANTFORMIMIN3bAbBuHAR2TIMESGALPLUSDISHeMINtIXASHaTENUhD
ISHeGESH2fSHAR2fUaVARIANTFORMmVARIANTFORMASH9sTHREEASHaTENUhBAN2dURUaVARIANTFORMpDISHeGESH2bUfSHAR2
aVARIANTFORMmUaVARIANTFORMqVARIANTFORMESH16c21uWOASHaTENUhBAN2dURUeESHE3fGESH2bUfSHAR2bUfTHIRDSDISH
eVARIANTFORMAÆPUNCTUATIONSIGNDIAGONALCOLONfQUADCOLONjTRICOLONqOLDASSYRIANWORDDIVIDERwVERTICALCOLONÂ
SIGNAa2bBa2aTIMESAbBALAGfGAN2TENUiMEPLUSENiSHA3eTAK4kGUNUeTIMESASH2eDUN3GUNUiGALbN2TENUiHAcIGIGUNUg
MINeLAGABfNUNaTENUhSHESHdU2eUPLUSUPLUSUrDaTIMESESH2kKaTIMESERIN2fSHITAPLUSGISHtLaANcEPHdTIMESALcDIM
2eGISHeHAcKAD3dIcSHEdUSHjMARaTIMESKUGdSHElNaOVERANgPLUSNAGAOPPOSINGANPLUSNAGAsSQUAREDpSHEdTHREETIME
SlPINdRADaTIMESKURkKABeSAL2dHa2bGABdKABATENUiOVERASHOVERASHaCROSSINGASHOVERASHOVERASHÆTUG2OVERTUG2T
UG2OVERTUG2PAPÈZIDATENUkTIMESAbBADdGAN2TENUiHAcIGIdLAGARGUNUjMUSHeSAGjBAaDaTIMESDISHTENUoG3cHAR2aTI
MESAB2dNIcZAlLaAGcOVERBALiRaA2eIaTIMESAbGARdIGIGUNUnUaCROSSINGBUkLUGaOVERBULUGmOVERBUABcTIMESNA2iUN
iRa2eDAaGa3bKISIM5TIMESAMARdPLUSMASHjBALAGeIcGAaPLUSMASHjIaR2dUDdHAcIRaPLUSLUiKAKdLAbUaMbPLUSMASH2l
NEcPAPPLUSPAPkSIcTAK4eU2PLUSGIR2eMASHjSHoTIMESKURjMbRaA3b4dTIMESTAK4kIaBbMa2aTIMESUDiTIMESIGIdSHEdU
UUjNaKASKALUGUNUDISHqSHaPLUSSHUkUaBa2bTIMESESH2eSHEjGaTIMESANSHEeSHaATLEFTjDINcUNdERIN2fGAbIaR2GUNU
gSHeHAbIcIGIGUNUhKASKALfURbSHU2aPLUSKASKALqLAK020eMaTIMESKURkUHPLUSGISHlMASHdEScIcNIcPIcSHEcIGUNUlU
DbNUeHbNa3aGUNUaGUNUj4cOVERDUgR2cSHESHIGjEa2aTIMESAPLUSHAPLUSDAnGARdKURdMIcPAPdSALcHEdUhDINdGIRdLbN
aCROSSINGENkOPPOSINGENkSQUAREDhTIMESGAN2aTENUiMEiOVERENUNOVERNUNpRENcIN2aXfSH2aCROSSINGESH2pTIMESPA
PiZENaSHESHIGTIMESASHdHIcIGIGUNUhLAaLdMEaSdSUoTIMESAaNbPLUSLALaTIMESLALqBADdDUN3GUNUaGUNUmGUDdHAaGU
NUgIGIGUNUhKASKALaSQUAREDmU3dLAaLTIMESLALkIbUcSHEcUcU2bDlGAa2aOVERGA2hTIMESAB2TENUPLUSTABnNaPLUSKAK
PLUSAnPLUSDAPLUSHAiHAcIGIhSHa2aPLUSGALlBADbHAR2eRPLUSRAiURaPLUSRAjDAbIaMGUNUeTIMESSHEkUBbGTIMESIGIG
UNUhKASKALoELaPLUSLAhNaTIMESGAN2TENUoRENeGAaN2TENUgRaPLUSDIcNEiIa4aPLUSAgR2PLUSSUkHALaPLUSLAhPLUSAb
LUPLUSESH2pIPLUSLIhUB2eIGIGUNUgSHPLUSHUPLUSASHqKAKbSKALfIDaPLUSLALjU3PLUSANhSHU2PLUSKASKALqLAaMaTIM
ESKURkUHdMEPLUSENhIbUSHeNEaPLUSE2cGIhUNaOVERNUNkPAcSALbRcHEaPLUSTURiIDbMdUMdTAK4eUaDaPLUSDUiZIZ2kBA
aCROSSINGGABAmROTATEDNINETYDEGREESwDaOVERGADGAROVERGARsGUNUeLaAMcGADOVERGADGAROVERGARvMbNa2aCROSSIN
GGAN2mOVERGAN2iTENUgRa3cSHANfE22cSHTINaTIMESKURdUmIa4aCROSSINGGI4lOVERGI4iCROSSINGGIkDIMdGbR2aGUNUf
3aTIMESAPLUSIGIiGAN2TENUiIGIdLUPLUSIGIjPAjSALcHaCROSSINGGISHmTENUdIMESBADdGISHCROSSINGGISHqTAK4lTIM
ESEbUhUa2aGUNUeTIMESIGIGUNUhKAKaTIMESIGIGUNUpNUNdSALPLUSTUG2rCROSSINGGUkDaOVERGUDLUGALmPLUSGISHTIME
STAK4rTIMESAPLUSKURiKURjLbMaTIMESSHEjRa7bUNbSHgHAaGUNUeLbTENUaGUNUjIaTIMESASHa2bOVERHITIMESASHrBADd
DISHeGADdKINdNUNdSHEdUhUaB2aTIMESANcHALdKASKALgLISHeUDjL2cSHeIaAbBbDIMaOVERIDIMBURdSQUAREDsGaIaDIBd
GUNUeOVERIGISHIROVERSHIRUDOVERUDÁRIeLa2bTIMESGAN2TENUoMaCROSSINGIMkINcOPPOSINGIMkSQUAREDhTIMESTAK4k
NbRbSHdKAa2aCROSSINGKA2mBbD2b3b4b5aOVERKAD5kKaTIMESIGIGUNUnLaCROSSINGKALlTIMESBADjM2b4cPELAMITEiSKA
LaLAGABTIMESUOVERLAGABTIMESUÀOVERKASKALLAGABTIMESUOVERLAGABTIMESUÎTIMESAaDaPLUSKU3iNSHEeSH2b3eBADbL
AGdRcIbUcERIN2eSH2eGAaLbN2TENUgRaPLUSSHA3PLUSApIaR2cSHaCROSSINGGISHmPLUSSARkUaDbR7eHITIMESASH2lIGIc
McKAaKcIaDdLIbUaMdMEaPLUSDUcGIcTEhIaPLUSNUNUZlNEbUNdPAbIcRUcSAaRcHAbEbIDcUaLdIGcUHURfTARcUcUa2bDbMU
MTIMESPAkRa2cSHcUUdZIiESH2eIaDbNbSALcHbIM5aOVERKISIM5oTIMESBADdUaDiUa3b4aVARIANTFORMm7bLaGUNUfNbOVE
RHITIMESASH2KUOVERHITIMESASH2ÆRaOPPOSINGKURmSHU2fWU318gLAaGABaSQUAREDhTIMESAaLbNbPLUSDAPLUSHAiGARdL
ALhSHZIDATENUlBADcIcDARdENcGAaRcIbUDaPLUSGUDkHAaLcITIMESNUNkIGIGUNUgMaPLUSHAcLUiKIaNcU3bLaPLUSHIPLU
SAoLAGABeISHdUaLdMEaPLUSENhUSHeNEcSHEPLUSSUMiITAPLUSGISHPLUSERIN2jTENUpU2aPLUSSHU2lUMdTAGbK4dEPLUSA
PLUSSUPLUSNAtUa2PLUSASHiDbPLUSAbUPLUSUkSHdZUOVERZUoRaGUNUaOVERLAGARGUNUSHEuTIMESSHEaPLUSSUMsHSHUeK0
03c21b5c30c50b1c62c79OVERLAK079GUNUq80b1OVERLAK081m92d130c42d210b9c20b5b8c38c65b6d343b7b8c83b4c90d4
41b9aTIMESGUcIGIdPAPPLUSLU3dPAPPLUSLU3rU2PLUSBAp50b7c70c83c90b2b3b5d550d608c17aTIMESASHdBADdDUN3GUN
UGUNUmKU3dLAcTARcEcU2bDbRUDAm36c48aTIMESDUBdGAcIGIaGUNUhNIcPAPPLUSPAPPLUSLU3rSHESHPLUSKIlUDbRUDAn72
4c49eLaTIMESLALjMaTIMESKURaPLUSRUqIaLbMMU2eSHdUa2aCROSSINGLU2lGUNUTIMESASHmOPPOSINGLU2lSHESHIGaTIME
SBADoQUAREDhTENUdIMESALcBADdDISHeESH2aPLUSLALhTENUiGAN2TENUiHALcITIMESBADkIMcKAD2b3aPLUSASHkIcLAGAB
dPLUSASHjMEPLUSENiNEbUcPAPaPLUSPAPPLUSLU3rSHUcIK2PLUSBUiPLUSASHjTAK4dUG2k3bGALaOPPOSINGLUGALmVERLUG
ALjSHESHIGkHbLbMaOVERLUMaGAROVERGARsTIMESBADkMAa2bGUNUeHbRbSHa2dTIMESTAK4kEaSaHdIaNbPLUSZA7iUaGaGUN
UfNSUBeOVERMUgRGU2eSHa3aGUNUeTIMESAaPLUSDIhDIcZAiCROSSINGMUSHmOVERMUSHaTIMESAPLUSNAhGAcKAKqTIMESAbK
URdZAlNAa2b4bGAaINVERTEDiOPPOSINGNAGAmRbTIMESSHUTENUoMa2bNUTILLUjEaSHESHIGhTIMESAbUDiIa2bMaTIMESGAN
2TENUgRPLUSGAN2TENUvNa9bDA2aTIMESANbSHaPLUSASHkBALdDIMGUNUhGIaSHdUDbLdHIcKESH2fLAK050gMASHdEPLUSGAN
2TENUoNEbUNdPAPPLUSPAPkSHEaPLUSAANcSHaPLUSASHrUa2PLUSASHiPLUSUfRUDAeSHmSAGdTIMESEhUa11aOVERNU11BURO
VERBURsROTATEDNINETYDEGREESuTENUgNaCROSSINGNUNaLAGAROVERLAGARzLAGARTIMESGARdMASHeSALaOVERNUNLAGARTI
MESSALxUSHnOVERNUNhTENUeUZaAB2TIMESASHGABgBIcDUGdGUDdIGIGUNUhKAD3eLAcNEcSILA3fU2kKISIM5TIMESBIaUtPA
aDbNbPcESH2aASTERISKmIaCROSSINGPIkR2bIGaOPPOSINGPIRIGnTIMESKALdUDcZAkTIMESAaBcBIbUcEbIaBcUa2jRAaBcI
bUcSAaGaGUNUaTIMESHAlNUTILLUhOVERSAGhTIMESAbDUaBdENcHAcIGIGUNUhKAKcURdLUMdMIcNUNdSALcHEATLEFThIDeTA
BbK4eU2bBbMbRbSHjLaLAGABTIMESASH2pNGA2eRcHAa3aTIMESAbBADdGISHeNEcSHU2eTURdUaPLUSAm6aTENUfB6cR2dEaG9
cHUcNbOVERSHEaGADOVERGADGAROVERGARuTABOVERTABGAROVERGARÁPLUSHUB2eNAM2eSARhSHa2bLAMgIDaTIMESAbIMiMaT
IMESAbBALcULUGfDINdGARdIGIaGUNUhKUSHU2gLULdMUGdSALjNIGdRaOVERSHIRBUROVERBURsTENUfTAdUa2aPLUSDUGTIME
SNIkE2TIMESANoBURdOVERINVERTEDSHUrIaGa4aOVERSIG4SHU2nUNUeK2cLA3dTIMESTAK4kUaDa2cHURdMaASHeOVERSUgRa
9eTAaASTERISKiBaOVERTABNIOVERNIDISHOVERDISHÁSQUAREDiGaTIMESBIcGUDdSHEbUdTUG2eUDhUNUeK4aPLUSSAGjRbTI
MESHIcMIiEaGUNUfIa2bLbRaOVERTIRaGADOVERGADGAROVERGARÁTIMESTAK4kTENUfUaG2cKbMaTIMESGAN2TENUiTHREEDIS
HpRaOVERTURZAOVERZAsUa2bBbDaGUNUeKUSHU2gSHESHIGaTIMESBADpTIMESBADdMIcUPLUSUPLUSUaGUNUuUGdGUDdMaBINd
TIMESLAGABfMEaPLUSDAiSHA3eUgUMaTIMESKASKALgPAkNaGUNUfOVERUPAOVERPAGAROVERGARsSUROVERSURkUREVERSEDOV
ERUREVERSEDÁRa2aINVERTEDiTIMESALbPLUSHAcNAhHAcNUNdU2aPLUSASHdBIhDi4bCROSSINGURkIa3cSHESHIGhUaDAaTIM
ESUiTIMESAaSHGABgBARdDARA3eUNdGAaLbN2TENUgRcUcHAcIGIcMbSHdKIcLAK668fU3bMdMINdPAcSHEcIG4eTUcUDbPLUSG
UDhRUDAmSHa2bTIMESAbKUaRdTAK4jUMXdXdTUKIeUaUcZ3aTIMESKASKALmUdZAa7bGbMXcSQUAREDTIMESKURpTENUfE2cIa3
bBaKABATENUjGbOVERZIgZ2dUa5aTIMESAbTHREEDISHTENUtBURdMbOVERZUPLUSSARÀPCAKEeIDOdONBLACKSQUAREnWITHST
RAWkRLINGSTONEiYBRACKETEXTENSIONqLOGICALANDdORhOPgRENCYEXCHANGEiSIGNiYANDRICEjVEDSTEMPARAGRAPHSIGNO
RNAMENTÃSTARDdOMSfTOFMEATiYCLONEfLINDRICITYkPRIOTSYLLABLEAbEbIbJAbOcKAbEbIbObUcLAbEbIbObUcMAbEbIbOb
UcNAbEbIbObUcObPAbEbIbObUcRAbEbIbObUcSAbEbIbObUcTAbEbIbObUcUbWAbEbIbOcXAbEcZAbOnOMINOANSIGNCM001b2b
4b5b6b7b8b9c10b1b2aBc3b5b7b9c21b3b4b5b6b7b8b9c30b3b4b5b6b7b8b9c40b1b4b6b7b9c50b1b2b3b4b5b6b8b9c60b1
b2b3b4b6b7b8b9c70b1b2b3b4b5aBc6b8b9c80b1b2b3b4b5b6b7b8b9c90b1b2b4b5b6b7b8b9d100b1b2b3b4b5b7b8b9c10b
2b4d301b2sRILLICCAPITALLETTERAaBKHASIANCHEaWITHDESCENDERqDZEdHAkLEUTKAgWITHBREVEfDIAERESISoBARREDOa
WITHDIAERESISsSHKIRKAiEbIGYUSeNOCULAROjLENDEDYUSjROADOMEGAjYELORUSSIANUKRAINIANIwCCHEdHEaWITHDESCEN
DERiIAERESISjVERTICALSTROKEuLOSEDLITTLEYUSoROSSEDOiDCHEdEbJEaRVeOUBLEMONOCULAROkOgWEcZEaLOdHEcWEcZE
bHEfEaFbLaWITHDESCENDERjHOOKeMIDDLEHOOKkTAILjMaWITHTAILjNaWITHDESCENDERjHOOKeLEFTHOOKiMIDDLEHOOKkTA
ILjRaWITHTICKjSaWITHDESCENDERoWITHDIAERESISoFITAeGHEaWITHDESCENDERjMIDDLEHOOKkSTROKEaANDHOOKnUPTURN
mJEdHAaRDSIGNgWITHDESCENDERjHOOKeSTROKElWEdIaEaWITHBREVEfGRAVEkOaTAbIFIEDAbBIGYUSgCLOSEDLITTLEYUSpE
bLITTLEYUSjYATkWITHDIAERESISjGRAVEfMACRONkZHITSAaWITHDOUBLEGRAVEACCENTÂJEcKAaWITHDESCENDERjHOOKeSTR
OKEgVERTICALSTROKEtHAKASSIANCHEmJEcOMIDEbJEcZJEeLJEdNJEdSJEdTJEdZJEfPPAeSIdLHAcITTLEYUSiJEdMONOCULA
ROgGRAPHUKlNEUTRALYERjJEdOaMEGAaWITHTITLOnTbWITHDIAERESISoPEaWITHDESCENDERjMIDDLEHOOKpSIdQAcREVERSE
DDZEdTSEdYUcZEjHAcOUNDOMEGAkSCHWAaWITHDIAERESISrEMISOFTSIGNlHAbCHAdHAaWITHDESCENDERpORTIaWITHTAILjU
eWEdOFTDEcELbMcSIGNhTRAIGHTUaWITHSTROKEtTCHEdEaWITHDESCENDERjMIDDLEHOOKpSEbHEcSEcWEdWEdUaKaRAINIANI
EkWITHDIAERESISiOUBLEACUTElMACRONlVEcWEcYAaEbTcERUaWITHBACKYERhDIAERESISqIbNbUcZEaMLYAeWITHDESCENDE
RiIAERESISoHEaWITHBREVEfDESCENDERiIAERESISoWEjIGATUREAIEdENGHEfTETSEuKAVYKAgLETTERMULTIOCULAROmPALO
CHKAiSMALLCAPITALELuPAYEROKhSMALLLETTERAaBKHASIANCHEaWITHDESCENDERqDZEdHAkLEUTKAgWITHBREVEfDIAERESI
SoBARREDOaWITHDIAERESISsSHKIRKAiEbIGYUSeNOCULAROjLENDEDYUSjROADOMEGAjYELORUSSIANUKRAINIANIwCCHEdHEa
WITHDESCENDERiIAERESISjVERTICALSTROKEuLOSEDLITTLEYUSoROSSEDOiDCHEdEbJEaRVeOUBLEMONOCULAROkOgWEcZEaL
OdHEcWEcZEbHEfEaFbLaWITHDESCENDERjHOOKeMIDDLEHOOKkTAILjMaWITHTAILjNaWITHDESCENDERjHOOKeLEFTHOOKiMID
DLEHOOKkTAILjRaWITHTICKjSaWITHDESCENDERoWITHDIAERESISoFITAeGHEaWITHDESCENDERjMIDDLEHOOKkSTROKEaANDH
OOKnUPTURNmJEdHAaRDSIGNgWITHDESCENDERjHOOKeSTROKElWEdIaEaWITHBREVEfGRAVEkOaTAbIFIEDAbBIGYUSgCLOSEDL
ITTLEYUSpEbLITTLEYUSjYATkWITHDIAERESISjGRAVEfMACRONkZHITSAaWITHDOUBLEGRAVEACCENTÂJEcKAaWITHDESCENDE
RjHOOKeSTROKEgVERTICALSTROKEtHAKASSIANCHEmJEcOMIDEbJEcZJEeLJEdNJEdSJEdTJEdZJEfPPAeSIdLHAcITTLEYUSiJ
EcONGLEGGEDDEmMONOCULAROgGRAPHUKlNARROWOgEUTRALYERjJEdOaMEGAaWITHTITLOnTbWITHDIAERESISoPALOCHKAhEaW
ITHDESCENDERjMIDDLEHOOKpSIdQAcREVERSEDDZEdTSEdYUcZEjHAcOUNDEDVEeOMEGAkSCHWAaWITHDIAERESISrEMISOFTSI
GNlHAbCHAdHAaWITHDESCENDERpORTIaWITHTAILjUeWEdOFTDEcELbMcSIGNhTRAIGHTUaWITHSTROKEtTALLHARDSIGNiTEcY
ATgCHEdEaWITHDESCENDERjMIDDLEHOOKpHREELEGGEDTEmSEbHEcSEcWEdWEdUaKaRAINIANIEkNBLENDEDUKkWITHDIAERESI
SiOUBLEACUTElMACRONlVEcWEbIDEESgYAaEbTcERUaWITHBACKYERhDIAERESISqIbNbUcZEaMLYAeWITHDESCENDERiIAERES
ISoHEaWITHBREVEfDESCENDERiIAERESISoWEjIGATUREAIEdENGHEfTETSErUBSCRIPTSMALLLETTERAbBEbYELORUSSIANUKR
AINIANIwCHEdDEbZEbHEeEFbLbScGHEaWITHUPTURNnHAaRDSIGNiIaEcKAcObPEcSHAdTSEdUbVEcYERUeZEbHExTHOUSANDSS
IGNvDAGGERaKNIFEfWITHLEFTGUARDjRIGHTGUARDsLETSYMBOLjNCERdGOdRKSHADEeUNGLASSESmSHEDLOWLINEhOVERLINEi
TRIANGLEHEADEDRIGHTWARDSARROWÅSYMBOLgWITHLEFTUPTURNqTALINKESCAPEnC1b2b3b4bScEAFPERSONiCIDUOUSTREEjM
ALEXPONENTSYMBOLoSEPARATORKEYSYMBOLwREASEFONTSIZESYMBOLuERcGREECELSIUShFAHRENHEITkSIGNiLaETEdIVERYT
RUCKkTAEQUALTOkNTISTRYSYMBOLLIGHTDOWNANDHORIZONTALaWITHCIRCLEgTRIANGLEiWAVEzUPANDHORIZONTALaWITHCIR
CLEgTRIANGLEiWAVExVERTICALANDBOTTOMLEFTeRIGHTlTOPLEFTeRIGHTiWAVEhWITHCIRCLEgTRIANGLEÌPARTMENTSTOREn
RELICTHOUSEBUILDINGtSCENDINGNODElERETCAPITALLETTERAYcBEEdCHEEeDEEdEFbLbMbNaGcRbSaHcTHcWcGAYdHbJEEdK
AYdLONGAaHcEbIbOaOgOIbWcPEEdSHORTAaHcEbIbOaOhTEEcHEEeVEEdWUcYEEdZEEcHEErSMALLLETTERAYcBEEdCHEEeDEEd
EFbLbMbNaGcRbSaHcTHcWcGAYdHbJEEdKAYdLONGAaHcEbIbOaOgOIbWcPEEdSHORTAaHcEbIbOaOhTEEcHEEeVEEdWUcYEEdZE
EcHEErTaISLANDjKTOPCOMPUTERiWINDOWlVANAGARIABBREVIATIONSIGNpCUTEACCENTlCARETfDANDAeIGITEIGHTfFIVEdO
UReNINEeONEdSEVENeIXdTHREEeWOdZEROiOUBLEDANDAlGAPFILLERiRAVEACCENTlHEADMARKaWITHHEADSTROKEsSTROKEkJ
AINOMgLETTERAaAbIbUbWbYcBAbBAcHAdCAaNDRAAbEbOgHAdDAbDAbDAbHAdHAdHAdEbFAcGAbGAcHAbHAdLOTTALSTOPlHAbE
AVYYAhIaIcJAbHAcJAdKAbHAbHAeLAbLAbLAeMAaRWARIDDAkNAbGAcNAbNAdYAdOaEbOEdPAbHAdQAcRAbHAcRAdSAbHAbORTA
bEbOfSAdTAbHAcTAbHAeUaEbUaEdVAbOCALICLaLcRaRjYAbYAdZAbHAjOMcSIGNANUSVARAhVAGRAHAiBHALEaWITHHOOKnCAN
DRABINDUaAVAGRAHAiTHREEeWOdVIRAMArDOUBLECANDRABINDUVIRAMAxEXTENDEDBHALEaWITHHOOKvHIGHSPACINGDOToINV
ERTEDCANDRABINDUtMINDUfNUKTAfPUSHPIKAiREVERSEDNINELIKEBHALEvSIDDHAMgPACINGCANDRABINDUsVIRAMAeSARGAh
WESTERNFIVELIKEBHALEnNINELIKEBHALExTRESSSIGNANUDATTAiUDATTAqVOWELSIGNAAbIbUbWbYcCANDRAEbLONGEfOhEbI
aIcOaEbOEdPRISHTHAMATRAEoSHORTEbOgUaEbUaEdVOCALICLaLcRaRzICECONTROLFOUReONEdSTRINGgTHREEeWOpIAERESI
SgMETERSIGNiONDOPERATORiSHAPEWITHADOTINSIDEtTARGETgWITHBOTTOMHALFBLACKpLEFTHALFBLACKnRIGHTHALFBLACK
oTOPHALFBLACKvEFACE1b2b3b4b5b6fSELLOCOMOTIVEoFFERENCEBETWEENpGITEIGHTaCOMMAfFULLSTOPnFIVEaCOMMAfFUL
LSTOPlOURaCOMMAfFULLSTOPmNINEaCOMMAfFULLSTOPmONEaCOMMAfFULLSTOPlSEVENaCOMMAfFULLSTOPmIXaCOMMAfFULLS
TOPlTHREEaCOMMAfFULLSTOPmWOaCOMMAfFULLSTOPlZEROaCOMMAfFULLSTOPoRAMFOREARTHaLYHEAVENfUMANmGREATERYAN
GdINkHEAVENLYEARTHmUMANEARTHkLESSERYANGdINqMENSIONORIGINnNGBATCIRCLEDSANSSERIFDIGITEIGHTfFIVEdOUReN
INEeONEdSEVENeIXdTHREEeWOdZEROjNUMBERTENzNEGATIVECIRCLEDDIGITEIGHTfFIVEdOUReNINEeONEdSEVENeIXdTHREE
eWOiNUMBERTENjSANSSERIFDIGITEIGHTfFIVEdOUReNINEeONEdSEVENeIXdTHREEeWOdZEROjNUMBERTENÌRECTCURRENTSYM
BOLFORMTWOuHIThSABLEDCARhPPOINTEDBUTRELIEVEDFACEpFACEnCONTINUOUSUNDERLINESYMBOLzGUISEDFACElTTOMARKh
VESAKURUDIGITEIGHTfFIVEdOUReNINEeONEdSEVENeIXdTHREEeWOdZEROiOUBLEDANDAlENDOFTEXTMARKnGAPFILLERjINIT
IALRAjLETTERAaAcBAbHAdCAbHAdDAbDAbHAdHAdEbGAbHAdHAcIaIcJAcKAbHAdLAbLAdMAcNAbGAcNAcYAdObPAbHAdRAcSAb
HAcSAdTAbHAcTAdUaUcVAcYAbYAdZAiMEDIALRAcYAiPREFIXEDNASALSIGNrSIGNANUSVARAiCANDRABINDUlHALANTAhNUKTA
jVIRAMAfOWELSIGNAAbIcEbIaIcObUaUsIDESdNGMASKgSIONSIGNdLASHfTIMESkORCESYMBOLlYALAMPgZZYFACEeSYMBOLkL
EcNADOUBLEHELIXnOCUMENTaWITHPICTUREhTEXTaANDPICTUREyDOcESNOTCONTAINASMEMBERgNORMALSUBGROUPaOREQUALÄ
DIVIDEaWITHREVERSEDNEGATIONSLASHÅFORCEfPRECEDEaOREQUALmOVEfSUCCEEDaOREQUALtGaFACEeRAABBREVIATIONSIG
NqLETTERAaAbIbUcBAbHAdCAbHAdDAbDAbHAdHAdEbGAbHAdHAcIaIcJAbHAdKAbHAdLAcMAcNAbGAcNAcYAdObPAbHAdRAbRAd
SAbHAcSAdTAbHAcTAbHAeUaUcVAcYAiSIGNANUSVARAiNUKTAfVIRAMAeSARGAlVOWELSIGNAAbIbUcEbIaIcObUaUcVOCALICR
aRvLLARSIGNhPHINfMINOTILEHORIZONTAL0000b1b2b3b4b5b6d100b1b2b3b4b5b6d200b1b2b3b4b5b6d300b1b2b3b4b5b6
d400b1b2b3b4b5b6d500b1b2b3b4b5b6d600b1b2b3b4b5b6eBACKoVERTICAL0000b1b2b3b4b5b6d100b1b2b3b4b5b6d200b
1b2b3b4b5b6d300b1b2b3b4b5b6d400b1b2b3b4b5b6d500b1b2b3b4b5b6d600b1b2b3b4b5b6eBACKuNGSIGNfKEYdOTLITTE
RSYMBOLpORcTABOVEfMINUSfOPERATORiPLUSeTEDCIRCLEfROSSfFENCEfLINEFACEiOBELOSgRIGHTPOINTINGANGLEsSOLID
USgQUAREgTRANSPOSITIONMARKERxUBLEACUTEACCENTlCIRCLEDDIGITEIGHTfFIVEdOUReNINEeONEdSEVENeIXdTHREEeWOi
NUMBERTENpOLONEQUALjURLYLOOPjDAGGERfFEMALESIGNkMALESIGNiOWNTACKhSYMBOLhENDEDMULTIMAPmXCLAMATIONMARK
pHIGHREVERSED9QUOTATIONMARKzYPHENgINTEGRALeRSECTIONmLEFTARCGREATERTHANBRACKETyINEEQUALTOORGREATERTH
ANlLESSTHANrSLANTEDEQUALTOORGREATERTHANlLESSTHANrGREATERTHANOREQUALTOuLESSTHANOREQUALTOÁOGICALANDdO
RhW9QUOTATIONMARKoLINEeREVERSED9QUOTATIONMARKzNESTEDGREATERTHANlLESSTHANaWITHUNDERBARÀOBLIQUEHYPHEN
nPLUSdRECEDESgIMEaQUOTATIONMARKsQUESTIONMARKmRIGHTARCLESSTHANBRACKETxSOLIDUSOPERATORoQUAREINTERSECT
IONmUNIONkTACKEDCOMMAkROKENOTSIGNkUCKCAPITALCbGAMMAfHbNbPaIcQbRbZiITALICCAPITALDiSMALLDbEbIbJmNARYS
UMMATIONnSMALLGAMMAfPImUBSETeCCEEDSgPERSETgSPENSIONMARKoUNIONePTACKgVERTICALBARaDOUBLELEFTTURNSTILE
nRIGHTTURNSTILEuLEFTTURNSTILEqLINEmWAVYOVERLINEpGHNUTgVEOFPEACEjWNARROWHEADjFISHTAILiPOINTINGREDTRI
ANGLElSMALLREDTRIANGLEqTRIANGLEWITHLEFTHALFBLACKnRIGHTHALFBLACKÈRIGHTDIAGONALELLIPSISvTACKaWITHCIRC
LEBELOWtWARDFACINGHOOKaWITHDOTlNOTCHEDHOOKaWITHDOTySANCORAfRROWaANDRIGHTONEEIGHTHBLOCKwFROMBARhLEFT
WARDSOFUPWARDSARROWxTOBARfWITHCORNERLEFTWARDSpDOUBLESTROKEmEQUILATERALARROWHEADuHORIZONTALSTROKEqLA
RGETRIANGLEARROWHEADwMEDIUMTRIANGLEARROWHEADxNOTCHEDTAILlSMALLEQUILATERALARROWHEADuTRIANGLEARROWHEA
DwTIPLEFTWARDSjRIGHTWARDSwBLACKARROWfCIRCLEDWHITEARROWwCOMPRESSEDARROWpDASHEDARROWkOUBLEARROWlFINGE
RPOSTARROWpHARPOONWITHBARBLEFTBESIDEDOWNWARDSHARPOONWITHBARBRIGHTÃUPWARDSHARPOONWITHBARBRIGHTÇFROMB
ARhTOBARfWARDSjRIGHTFROMBARhTOBARfWARDSyEAVYARROWfCOMPRESSEDARROWuPAIREDARROWSmQUADRUPLEARROWoROCKE
TgSANSSERIFARROWnQUAREDARROWmTRIANGLEARROWHEADjHEADEDARROWaLEFTWARDSOFUPWARDSTRIANGLEHEADEDARROWËTO
BARfWITHBOLDSHAFTjDOUBLEHORIZONTALSTROKEwHEAVYSHAFTkLONGTIPLEFTWARDSjRIGHTWARDSrMEDIUMSHAFTlNARROWS
HAFTlVERYHEAVYSHAFTxDASHEDARROWlPAIREDARROWSmZIGZAGARROWwPLEARROWkWOHEADEDARROWaWITHTRIANGLEARROWHE
ADSÊWHITEARROWaWITHINTRIANGLEARROWHEADÇZIGZAGARROWtRACHMASIGNiFTINGPOINTRIGHTWARDSARROWzGONaFACEiES
SdIVESLOWSIGNlOMEDARYCAMELlOLINGFACEjPLETdOFBLOODjUMWITHDRUMSTICKSrUCKcMPLINGgPLOYANAFFIXATTACHEDEH
OOKfIHOOKfLEFTTORIGHTSECANTrSECANTgTAILcNGENTaHOOKtHIGHACUTEfCIRCLEgDOTdGRAVEfLINEdONGGRAVEjTIGHTAC
UTEkVERTICALaSECANToWAVEiLEFTHORIZONTALSECANTtOWACUTEeRROWfCIRCLEgDOTdGRAVEfLINEdONGGRAVEjTIGHTACUT
EkVERTICALaSECANToWAVEhMIDHORIZONTALSECANTqVERTICALSECANTrRIGHTHORIZONTALSECANTÀDOUBLEMARKkLETTERAa
OUdBbDaHbScEaEbUcFaNcGaRSdHaLcIaEcJaMaScNaScSaWITHDOTiWITHDOTaSINSIDEANDABOVExKaKbMbRSdLaHbONGIbUfM
aNaScSbWITHDOTiNaASALAbIbObUfMaScSbWITHDOTiOaAbOHcUbWcPaERNINAMbNhNcRaHbOMANIANIbUiScSaHORTIfJaScKa
RcLOANANcDHcEEbHbNcJbONbWcUfMbNbPaRcSbTaRcWITHDOTaBELOWnTaHbRScScUaHbIbNcVaOCALICMiWaAbEIcHbIbOaWcR
cXaWcYEiPUNCTUATIONCHINOOKFULLSTOPÀSIGNOWITHCROSSoTHICKLETTERSELECTORÀVDdEAGLEdRaOFMAIZEfRICEgTHaGL
OBEAMERICAShSIAAUSTRALIAnEUROPEAFRICAqROUNDiWITHHEARINGAIDpSTSYRIACCROSSoDITORIALCORONISpGGbYPTIANH
IEROGLYPHA001b2b3b4b5aAc6aAbBc7b8b9c10b1b2b3b4aAc5b6b7aAc8b9c20b1b2b3b4b5b6b7b8b9c30b1b2aAc3b4b5b6b
7b8b9c40aAc1b2aAc3aAc4b5aAc6b7b8b9c50b1b2b3b4b5b6b7b8b9c60b1b2b3b4b5b6b7b8b9c70dA001b2b3b4b5b6b7aAb
Bc8b9c10b1b2b3b4b5b6b7b8b9c20b1b2b3b4b5b6b7b8b9c30b1b2fB001b2b3b4b5aAc6b7b8b9dEGINENCLOSUREjSEGMENT
hWALLEDENCLOSUREuC001b2aAbBbCc3b4b5b6b7b8b9c10aAc1b2b3b4b5b6b7b8b9c20b1b2b3b4eD001b2b3b4b5b6b7b8aAc
9c10b1b2b3b4b5b6b7b8b9c20b1b2b3b4b5b6b7aAc8b9c30b1aAc2b3b4aAc5b6b7b8b9c40b1b2b3b4b5b6aAc7b8aAc9c50a
AbBbCbDbEbFbGbHbIc1b2aAc3b4aAc5b6b7b8b9c60b1b2b3b4b5b6b7aAbBbCbDbEbFbGbHfE001b2b3b4b5b6b7b8aAc9aAd1
0b1b2b3b4b5b6aAc7aAc8b9c20aAc1b2b3b4b5b6b7b8aAc9c30b1b2b3b4aAc6b7b8dNDENCLOSUREjSEGMENThWALLEDENCLO
SUREsF001aAc2b3b4b5b6b7b8b9c10b1b2b3aAc4b5b6b7b8b9c20b1aAc2b3b4b5b6b7b8b9c30b1aAc2b3b4b5b6b7aAc8aAc
9c40b1b2b3b4b5aAc6aAc7aAc8b9c50b1aAbBbCc2b3dULLBLANKjG001b2b3b4b5b6aAc7aAbBc8b9c10b1aAc2b3b4b5b6b7b
8b9c20aAc1b2b3b4b5b6aAc7b8b9c30b1b2b3b4b5b6aAc7aAc8b9c40b1b2b3aAc4b5aAc6b7b8b9c50b1b2b3b4eH001b2b3b
4b5b6aAc7b8dALFBLANKfLOSTSIGNlORIZONTALJOINERqI001b2b3b4b5aAc6b7b8b9aAd10aAc1aAc2b3b4b5dNSERTATBOTT
OMaENDdSTARTlMIDDLEgTOPaENDdSTARTqK001b2b3b4b5b6b7b8eL001b2aAc3b4b5b6aAc7b8dOSTSIGNiM001aAbBc2b3aAc
4b5b6b7b8b9c10aAc1b2aAbBbCbDbEbFbGbHc3b4b5aAc6aAc7aAc8b9c20b1b2aAc3b4aAc5b6b7b8aAc9c30b1aAc2b3aAbBc
4b5b6b7b8b9c40aAc1b2b3b4dIRRORHORIZONTALLYrODIFIERDAMAGEDaATBOTTOMaANDENDgENDdSTARTaANDTOPENDuENDdS
TARTaANDBOTTOMgTOPlTOPaANDENDgENDdSTARTaANDBOTTOMENDËN001b2b3b4b5b6b7b8b9c10b1b2b3b4b5b6b7b8aAbBc9c
20b1b2b3b4b5aAc6b7b8b9c30b1b2b3aAc4aAc5aAc6b7aAc8b9c40b1b2dL001b2b3b4b5aAc6b7b8b9c10b1b2b3b4b5b6b7a
Ac8b9c20eU001b2b3b4b5b6b7b8b9c10aAc1aAc2b3b4b5b6b7b8aAc9c20b1b2aAgO001aAc2b3b4b5aAc6aAbBbCbDbEbFc7b
8b9c10aAbBbCc1b2b3b4b5b6b7b8b9aAd20aAc1b2b3b4aAc5aAc6b7b8b9aAd30aAc1b2b3aAc4b5b6aAbBbCbDc7b8b9c40b1
b2b3b4b5b6b7b8b9c50aAbBc1dVERLAYMIDDLEnP001aAc2b3aAc4b5b6b7b8b9c10b1eQ001b2b3b4b5b6b7eR001b2aAc3aAb
Bc4b5b6b7b8b9c10aAc1b2b3b4b5b6aAc7b8b9c20b1b2b3b4b5b6b7b8b9eS001b2aAc3b4b5b6aAc7b8b9c10b1b2b3b4aAbB
c5b6b7aAc8b9c20b1b2b3b4b5b6aAbBc7b8b9c30b1b2b3b4b5aAc6b7b8b9c40b1b2b3b4b5b6eT001b2b3aAc4b5b6b7aAc8a
Ac9aAd10b1aAc2b3b4b5b6aAc7b8b9c20b1b2b3b4b5b6b7b8b9c30b1b2aAc3aAc4b5b6dALLLOSTSIGNmU001b2b3b4b5b6aA
bBc7b8b9c10b1b2b3b4b5b6b7b8b9c20b1b2b3aAc4b5b6b7b8b9aAd30b1b2aAc3b4b5b6b7b8b9c40b1b2eV001aAbBbCbDbE
bFbGbHbIc2aAc3b4b5b6b7aAbBc8b9c10b1aAbBbCbDc2aAbBc3b4b5b6b7b8b9c20aAbBbCbDbEbFbGbHbIbJbKbLc1b2b3aAc
4b5b6b7b8aAc9aAd30aAc1aAc2b3aAc4b5b6b7aAc8b9c40aAeERTICALJOINERoW001b2b3aAc4b5b6b7b8b9aAd10aAc1b2b3
b4aAc5b6b7aAc8aAc9c20b1b2b3b4aAc5dIDELOSTSIGNmX001b2b3b4aAbBc5b6aAc7b8aAfY001aAc2b3b4b5b6b7b8eZ001b
2aAbBbCbDc3aAbBc4aAc5aAc6b7b8b9c10b1b2b3b4b5aAbBbCbDbEbFbGbHbIc6aAbBbCbDbEbFbGbHwIGHTHNOTEfPETALLED
OUTLINEDBLACKFLORETTEÂOINTEDBLACKSTARjPINWHEELSTARmRECTILINEARBLACKSTARÁSPOKEDASTERISKoTEARDROPSPOK
EDPROPELLERASTERISKÉJECTSYMBOLkLBASANLETTERAbBEcCEbHEdDEbHEdEaIcFEcGEbHAMMAeEcJEdHEcIbJEcKEbHEdLEbL
EdMEcNAbDEcEbJEdObPEcQEcREbREdSEbHEdTEbHEdUbVEcXEcYbZEbHEoECTRICALINTERSECTIONnRROWfLIGHTBULBjPLUGe
TORCHkMENTOFaOPENINGDOWNWARDSjUPWARDSoWITHDOTABOVEiLONGHORIZONTALSTROKEuOVERBARhTWOHORIZONTALSTROKE
SuUNDERBARiVERTICALBARATENDOFHORIZONTALSTROKEÒPHANTfVATORgFbYMAICLETTERALEPHeYINeBETHeDALETHgGIMELf
HEaTHeKAPHeLAMEDHgMEMdNUNdPEcQOPHeRESHeSADHEdMEKHfHINeTAWcETHeWAWdYODHeZAYINkIGATUREZAYINYODHxMaAIL
SYMBOLjDASHeOJICOMPONENTBALDeCURLYHAIRjREDHAIRhWHITEHAIRsMODIFIERFITZPATRICKTYPE12c3b4b5b6ÁPHASISSY
MBOLlTYDOCUMENTiNESTdOTEaPADbGEiPAGEaSfSETaWITHLEFTARROWABOVEoOVERBARhRIGHTARROWABOVEpSMALLCIRCLEAB
OVEÀQUADeSPACEgNDASHdOFGUARDEDAREAlLINEeMEDIUMgPROOFcTECTEDAREAnSELECTEDAREAmTEXTdRANSMISSIONaBLOCK
tWITHLEFTWARDSARROWABOVEyQaUADcIRYfSPACEfTERSYMBOLjVELOPEaWITHDOWNWARDSARROWABOVEtLIGHTNINGuOLbMbTc
PAcQUALANDPARALLELTOnSCOLONfSIGNaABOVELEFTWARDSARROWoPLUSSIGNiRIGHTWARDSARROWpTILDEOPERATORrNDSLANT
EDPARALLELaWITHTILDEABOVEÆWITHBUMPYABOVEkDOTBELOWiINFINITYBELOWnTWODOTSABOVEANDTWODOTSBELOWÉWITHAST
ERISKnTOBYDEFINITIONmORGREATERTHANlLESSTHANiPRECEDESiSUCCEEDSoIANGULARTOjVALENTTOcWITHFOURDOTSABOVE
ÀRASETOTHELEFTeRIGHTnISFORMONEdTWOjRORBARREDBLACKCIRCLEgDIAMONDhSQUARElWHITECIRCLEgDIAMONDhSQUAREvS
AbCaAPEeTIMATEDSYMBOLhSiTBbHIOPICCOLONdMBININGGEMINATIONANDVOWELLENGTHMARKsMARKoVOWELLENGTHMARKvMAf
DIGITEIGHTfFIVEdOUReNINEeONEdSEVENeIXdTHREEeWOiFULLSTOPiNUMBEREIGHTYgFIFTYeORTYfHUNDREDhNINETYgSEVE
NTYgIXTYfTENaTHOUSANDkHIRTYfWENTYmPARAGRAPHSEPARATORrREFACECOLONmQUESTIONMARKmSECTIONMARKjMICOLONiY
LLABLEBAaAcBAaAcEaEcIbObUcEaEcIbOaAcUbWAbEaEcIdCAaAcCAaAcEaEcHAaAcEaEcHAaAcEaEcIbObUcIbObUcIbObUcEa
EcHAaAcEaEcIbOaAcUbWAdIbOaAcUbWAdDAaAcDAaAcEaEcHAAcEaEcIbObUcIbOaAcUbWAdEaEcIbOaAcUbWAcZAAcEaEcIbOb
UdFAaAcEaEcIbObUbWAbEaEcIcYAdGAaAcEaEcGAaAcEaEcIbObUbWAaAcEaEcIdIbLOTTALAaAcEaEcIbOaAcUbWAiOaAcUaRA
GEBWEEcIdFWEEcIdGWEaEcIdHHWAeKWEaEcIdMWEEcIdPWEEcIdQWEaEcIiWAaAcEaEcIcYAaAcEaEcIbObUdHAaAcEaEcHAaAc
EaEcIbObUbWAbEaEcIcYAaAcEaEcIbObUdIbOaAcUcJAaAcEaEcIbOaAcUbWAdKAaAcEaEcIbOaAcUbWAaAcEaEcIcXAaAcEaEc
IbObUbWAaAcEaEcIdYAaAcEaEcIbObUdLAaAcEaEcIbOaAcUbWAdMAaAcEaEcIbOaAcUbWAbEaEcIcYAdNAaAcEaEcIbOaAcUbW
AcYAaAcEaEcIbOaAcUbWAePAaAcEaEcHAaAbRYNGEALAaAcEaEcIbObUjEaEcIbOaAcUbWAdIbOaAcUbWAbEaEcIdQAaAcEaEcH
AaAcEaEcIbObUbWAaAcEaEcIdIbOaAcUbWAaAcEaEcIcYAaAcEaEcIbObUdRAaAcEaEcIbOaAcUbWAcYAdSAaAcEaBATBEITBWA
dFWAdMWAdPWAkEcHAaAcEaEcIbOaAcUbWAdIbOaAcSAaAcEaEcIbObUcUbWAcZAaAcEaEcIbObUbWAeTAaAcEaEcHAaAcEaEcIb
OaAcUbWAdIbOaAcSAaAcEaEcIbObUbWAdTHAAcEaEcIbObUdUbWAcZAaAcEaEcIbOaAcUdVAaAcEaEcIbObUbWAdWAaAcEaEcIb
OaAcUcXAaAcEaEcIbOaAcUbWAaAcEaEcIcYAaAcEaEcIbObUdYAaAcEaEcIbOaAcUcZAaAcEaEcHAaAcEaEcIbObUbWAdIbOaAc
UbWAcZAaAcEaEcIbObUlTONALMARKCHIRETgDERETaHIDETjIFATfHIDETfKENATeURTeRIKRIKgSHORTRIKRIKlYIZEToWORDS
PACEpXcULERCONSTANTlROCURRENCYSIGNmPEANCASTLEgPOSTOFFICEoSIGNhVERGREENTREEmXCESSdLAMATIONMARKeQUEST
IONMARKvPRESSIONLESSFACEqTENDEDARABICINDICDIGITEIGHTfFIVEdOUReNINEeONEdSEVENeIXdTHREEeWOdZEROzRATER
RESTRIALALIENrEMELYHEAVYFIVESPOKEDASTERISKsGREEKCROSSkSALTIREgIXSPOKEDASTERISKrWHITECIRCLEgSQUAREyY
EaGLASSEShSeFACEHOLDINGBACKTEARSqMASSAGEhPALMeSAVOURINGDELICIOUSFOODvCREAMINGINFEARpTHROWINGAKISSnW
ITHCOLDSWEAThWBOYHATjDIAGONALMOUTHnFINGERCOVERINGCLOSEDLIPSyHEADBANDAGElLOOKOFTRIUMPHnMEDICALMASKkO
NOCLEhNOGOODGESTUREnOKGESTUREiNEEYEBROWRAISEDpPENEYESANDHANDOVERMOUTHuMOUTHaANDCOLDSWEATmVOMITINGqU
TMOUTHiPARTYHORNANDPARTYHATtEEKINGEYEjLEADINGEYESmROLLINGEYESlSTUCKOUTTONGUEaANDTIGHTLYCLOSEDEYESrW
INKINGEYEÁTEARSOFJOYjHERMOMETERlUNEVENEYESANDWAVYMOUTHÁSIMILESIGNkTORYfIRYdLAFELeLENLEAFgINGDIAGONA
LCROSSINGNORTHEASTARROWoRISINGDIAGONALwINWHITECIRCLEINBLACKSQUAREÍMILYeRSISYMBOLjTHERCHRISTMASnXICO
NeMACHINEjEARFULFACEiTHERfMALESIGNhININEORDINALINDICATORwNCEReRRISWHEELhYeFbIELDHOCKEYSTICKANDBALLv
GUREDASHeSPACEjLECABINEThFOLDERgSEPARATORkMFRAMESgPROJECTORlNITEPARTINTEGRALqREaCRACKERhENGINEfXTIN
GUISHERmWORKSaPARKLERnSTPLACEMEDALkQUARTERMOONaSYMBOLgWITHFACEtSTRONGISOLATEqSHaCAKEWITHSWIRLDESIGN
tEYEdINGPOLEANDFISHpTEDHANDSIGNmVEDOTMARKePUNCTUATIONrLAGINHOLEhMINGOfTBREADfNESSeSHOEgEURDELIShXED
BICEPSkOPPYDISKhRALHEARTiWERaPLAYINGCARDSlUNCTUATIONMARKtUSHEDFACEiTEdYaINGDISCeENVELOPEiSAUCERlOGa
GYdLDERcINGHANDFANmNDUEeOTaPRINTSiRALLdCESdKANDKNIFEaWITHPLATErEDPARAGRAPHOSnINGeMFEEDfTUNECOOKIElU
NTAINfRBALLOONSPOKEDASTERISKvCLUBSPOKEDASTERISKrORNERARROWSCIRCLINGANTICLOCKWISEÇDOTMARKePUNCTUATIO
NoLEAFCLOVERkPEREMSPACEjOINTEDBLACKSTARqTEARDROPSPOKEDASTERISKvHROOTiXFACEgRACTIONNUMERATORONEmSLAS
HkMEWITHANXdPICTUREhTILESmEEZINGFACEjNCHFRANCSIGNhIESjIEDSHRIMPjOGFACEfNTFACINGBABYCHICKpTILTEDSHAD
OWEDWHITERIGHTWARDSARROWÊWNaINGFACEWITHOPENMOUTHySaIcUELPUMPgLLBLOCKfMOONSYMBOLgWITHFACEmOUTERJOINj
STOPeWIDTHAMPERSANDiPOSTROPHEjSTERISKiBROKENBARjCENTSIGNhIRCUMFLEXACCENTpOLONdMMAbERCIALATmDIGITEIG
HTfFIVEdOUReNINEeONEdSEVENeIXdTHREEeWOdZEROiOLLARSIGNkEQUALSSIGNjXCLAMATIONMARKpFULLSTOPiGRAVEACCEN
TjEATERTHANSIGNpHYPHENMINUSlLATINCAPITALLETTERAbBbCbDbEbFbGbHbIbJbKbLbMbNbObPbQbRbSbTbUbVbWbXbYbZoS
MALLLETTERAbBbCbDbEbFbGbHbIbJbKbLbMbNbObPbQbRbSbTbUbVbWbXbYbZqEFTCURLYBRACKETmPARENTHESISlSQUAREBRA
CKETnWHITEPARENTHESISsSSTHANSIGNlOWLINEhMACRONgNOTSIGNgUMBERSIGNkPERCENTSIGNkLUSSIGNhOUNDSIGNjQUEST
IONMARKkOTATIONMARKnREVERSESOLIDUSnIGHTCURLYBRACKETmPARENTHESISlSQUAREBRACKETnWHITEPARENTHESISvSEMI
COLONiOLIDUShTILDEfVERTICALLINEmWONSIGNhYENSIGNoNCTIONAPPLICATIONqERALURNiSEdVS1b2b3b4eGAMEDIEfRLIC
fEARaWITHHANDLEShOUTHUBmMINIdSTONEgNIEdOMETRICALLYEQUALTOeIVALENTTOqPROPORTIONqRGIANCAPITALLETTERAE
NcNcBANdCANcHARcINdILdDONdENcGANcHANeHAEbRcEbIEcOEdINcJHANdILdKANcHAReLASdMANdNARdONcPARcHAReQARdRA
EdSANcHINeTANbRdUNcVINdWEcXANdYNcZENcHARrLETTERAENcINcNcBANdCANcHARcINdILdDONdELIFIeNcFIcGANcHANeHA
EbRaDSIGNhEbIEcOEdINcJHANdILdKANcHAReLABIALSIGNiSdMANdNARdONcPARcHAReQARdRAEdSANcHINeTANbRcURNEDGAN
jUNcVINdWEcXANdYNcZENcHARkMTAVRULICAPITALLETTERAENcINcNcBANdCANcHARcINdILdDONdELIFIeNcFIcGANcHANeHA
EbRaDSIGNhEbIEcOEdINcJHANdILdKANcHAReLABIALSIGNiSdMANdNARdONcPARcHAReQARdRAEdSANcHINeTANbRcURNEDGAN
jUNcVINdWEcXANdYNcZENcHARzPARAGRAPHSEPARATORsSMALLLETTERAENcNcBANdCANcHARcINdILdDONdENcGANcHANeHAEb
RcEbIEcOEdINcJHANdILdKANcHAReLASdMANdNARdONcPARcHAReQARdRAEdSANcHINeTANbRdUNcVINdWEcXANdYNcZENcHARv
RMANPENNYSIGNnTAMARKhHOSTeIMELSYMBOLjNGERROOTiRAFFEFACEiLaSSYMBOLkLAGOLITICCAPITALLETTERAZUdBIGYUSf
UKYeCAUDATECHRIVImHRIVIgDJERVIfOBROeZELOfFITAdRITUfGLAGOLIhHERUeIaNITIALIZHEkOTATEDBIGYUSgSMALLYUSo
ZHEbITSAhKAKOeLATINATEMYSLITEoJUDIJEhMYSLITEhNASHIfONUcTUdPEbOKOJIgRITSIfSHAbTAaPICgLOVOeMALLYUSaWI
THTAILpPIDERYHAjTROKUTASTIAkSIcVRIDOgUKUdVEDEeYATIdERIbUcSTUeObUcZEMLJAfHIVETEuSMALLLETTERAZUdBIGYU
SfUKYeCAUDATECHRIVImHRIVIgDJERVIfOBROeZELOfFITAdRITUfGLAGOLIhHERUeIaNITIALIZHEkOTATEDBIGYUSgSMALLYU
SoZHEbITSAhKAKOeLATINATEMYSLITEoJUDIJEhMYSLITEhNASHIfONUcTUdPEbOKOJIgRITSIfSHAbTAaPICgLOVOeMALLYUSa
WITHTAILpPIDERYHAjTROKUTASTIAkSIcVRIDOgUKUdVEDEeYATIdERIbUcSTUeObUcZEMLJAfHIVETEzSSOFMILKjEICHSTARK
jOBEWITHMERIDIANSpVESdWINGSTARkOALNETeTcGGLESfLFEReNGGONGgOSEdRILLAfTHICLETTERAHSAdIHVUSgBAIRKANhDA
GSeEISdFAIHUfGIBAeHAGLdWAIRfIGGWSeUJAeJERdKUSMAfLAGUSfMANNAfNAUTHSfINEHUNDREDhTYgOTHALfPAIRTHRAiQAI
RTHRAiRAIDAfSAUILfTEIWSeHIUTHgURUSeWINJAqRADUATIONCAPkNTHAAULENGTHMARKmLETTERAaAbIbUcBAbHAdCAbHAdDA
bDAbHAdHAdEEcGAbHAdHAcIaIcJAbHAdKAbHAdLAbLAdMAcNAbGAcNAcYAdOOcPAbHAdRAcSAbHAcSAdTAbHAcTAbHAeUaUcVAb
EDICANUSVARAiDOUBLEANUSVARAsOCALICLaLcRaRjYAiOMcSIGNANUSVARAhVAGRAHAiCANDRABINDUkOMBININGANUSVARAAB
OVEwNUKTAfPLUTAfVIRAMAeSARGAlVOWELSIGNAAbIbUcEEcIaIcOOcUaUcVOCALICLaLcRaRwPESdVEACCENTjEATERTHANABO
VEDOUBLELINEEQUALABOVELESSTHANÂLESSTHANABOVEDOUBLELINEEQUALÂRIGHTWARDSARROWpSIMILARABOVELESSTHANnOR
EQUALnLANTEDEQUALABOVELESSTHANABOVESLANTEDEQUALÔNDNOTAPPROXIMATEoSINGLELINENOTEQUALTOxBESIDELESSTHA
NnUTNOTEQUALTOeIVALENTTOsCLOSEDBYCURVEaABOVESLANTEDEQUALÄEQUALTOORLESSTHANrORAPPROXIMATElEQUALTOeIV
ALENTTOmLESSTHANiSLANTEDEQUALTOaWITHDOTABOVEaLEFTjINSIDEÂVEREQUALTOhLAPPINGLESSTHANtSIGNeWITHCIRCLE
INSIDEmDOTdQUESTIONMARKABOVEÃEKACROPHONICATTICFIFTYaSTATERShTALENTSgHOUSANDaSTATERSsVEaHUNDREDaSTAT
ERShTALENTSoSTATERShTALENTSgHOUSANDaTALENTStONEDRACHMAhHALFdUNDREDSTATERShTALENTSoQUARTERhTHOUSANDS
TATERShTALENTSsTENMNASeSTATERShTALENTSgHOUSANDSTATERSxCARYSTIANFIVEHUNDREDtYRENAICTWODRACHMAStDELPH
ICFIVEMNASpEPIDAUREANFIVEHUNDREDlTWOaDRACHMASvHERAEUMONEPLETHRONpMIONIANFIFTYfONEdTENnMESSENIANTENm
NAXIANFIVEHUNDREDrSTRATIANFIFTYMNASrTHESPIANFIFTYdVEHUNDREDhTHOUSANDmONEaHUNDREDhTHOUSANDlTENcHIRTY
eREEHUNDREDlWOkROEZENIANFIFTYaALTERNATEFORMqVEaHUNDREDlTENaALTERNATEFORMÉNOTELEIAiROURASIGNiTABESIG
NkBETASYMBOLkCAPITALDOTTEDLUNATESIGMASYMBOLxKAISYMBOLjLETTERALPHAaWITHDASIAaANDOXIAaANDPROSGEGRAMME
NIvPERISPOMENIaANDPROSGEGRAMMENIÁROSGEGRAMMENIoVARIAaANDPROSGEGRAMMENIÄMACRONgOXIAePROSGEGRAMMENInS
ILIaANDOXIAaANDPROSGEGRAMMENIvPERISPOMENIaANDPROSGEGRAMMENIÁROSGEGRAMMENIoVARIAaANDPROSGEGRAMMENIÄT
ONOSfVARIAeRACHYoRCHAICSAMPImBETAeCHIdDELTAfEPSILONaWITHDASIAaANDOXIAeVARIAnOXIAePSILIaANDOXIAeVARI
AnTONOSfVARIApTAaWITHDASIAaANDOXIAaANDPROSGEGRAMMENIvPERISPOMENIaANDPROSGEGRAMMENIÁROSGEGRAMMENIoVA
RIAaANDPROSGEGRAMMENIÄOXIAePROSGEGRAMMENInSILIaANDOXIAaANDPROSGEGRAMMENIvPERISPOMENIaANDPROSGEGRAMM
ENIÁROSGEGRAMMENIoVARIAaANDPROSGEGRAMMENIÄTONOSfVARIAmGAMMAfHETAeIOTAaWITHDASIAaANDOXIAePERISPOMENI
lVARIAmIALYTIKAjMACRONgOXIAePSILIaANDOXIAePERISPOMENIlVARIAnTONOSfVARIAeRACHYoKAPPAfLAMDAfMUcNUcOME
GAaWITHDASIAaANDOXIAaANDPROSGEGRAMMENIvPERISPOMENIaANDPROSGEGRAMMENIÁROSGEGRAMMENIoVARIAaANDPROSGEG
RAMMENIÄOXIAePROSGEGRAMMENInSILIaANDOXIAaANDPROSGEGRAMMENIvPERISPOMENIaANDPROSGEGRAMMENIÁROSGEGRAMM
ENIoVARIAaANDPROSGEGRAMMENIÄTONOSfVARIAmICRONaWITHDASIAaANDOXIAeVARIAnOXIAePSILIaANDOXIAeVARIAnTONO
SfVARIAqPAMPHYLIANDIGAMMAqHIcIbSIdRHOaWITHDASIAmSANcHOcIGMAfTAUcHETAfUPSILONaWITHDASIAaANDOXIAePERI
SPOMENIlVARIAmIALYTIKAjMACRONgOXIAeTONOSfVARIAeRACHYrXIcYOTdZETAjUNATESIGMASYMBOLrREVERSEDDOTTEDLUN
ATESIGMASYMBOLxLUNATESIGMASYMBOLzTHETASYMBOLsDASIAaANDOXIAePERISPOMENIlVARIAmIALYTIKAANDOXIAePERISP
OMENIlVARIAiTONOSnRACHMASIGNlFIVEOBOLSSIGNmOUROBOLSSIGNnGRAMMASIGNkINDICTIONSIGNlSTRUMENTALNOTATION
SYMBOL1a1b2b3b4b7b8b9c2a3b4b5b6b7b9c30b2b6b7b8b9c4a0b2b3b5b7b8b9c5a0b1b2b3b4c7b8ÁKAISYMBOLhPPASYMBO
LkORONISgYATHOSBASESIGNpLETTERARCHAICKOPPAmDIGAMMAhKOPPAfSAMPIeMALLCAPITALGAMMAfLAMDAfOMEGAfPIbSIdR
HOoTIGMAgYOTiITRASIGNiOWERNUMERALSIGNpUNATEEPSILONSYMBOLnSIGMASYMBOLrMETRETESSIGNlUSICALLEIMMAnNUME
RALSIGNlOBOLSIGNhNEHALFSIGNaALTERNATEFORMvQUARTERSIGNnUNKIASIGNjXIAePERISPOMENIkHISYMBOLiISYMBOLhRO
SGEGRAMMENInSILIaANDOXIAePERISPOMENIlVARIAnQUESTIONMARKmREVERSEDLUNATEEPSILONSYMBOLÀHOSYMBOLgWITHST
ROKESYMBOLtSINUSOIDSIGNlMALLDOTTEDLUNATESIGMASYMBOLxLETTERALPHAaWITHDASIAaANDOXIAaANDYPOGEGRAMMENIu
PERISPOMENIaANDYPOGEGRAMMENIÁVARIAaANDYPOGEGRAMMENIvYPOGEGRAMMENIvMACRONgOXIAaANDYPOGEGRAMMENIuPERI
SPOMENIaANDYPOGEGRAMMENIÀSILIaANDOXIAaANDYPOGEGRAMMENIuPERISPOMENIaANDYPOGEGRAMMENIÁVARIAaANDYPOGEG
RAMMENIvYPOGEGRAMMENIvTONOSfVARIAaANDYPOGEGRAMMENIuRACHYgYPOGEGRAMMENIvRCHAICKOPPAfSAMPImBETAeCHIdD
ELTAeIGAMMAhEPSILONaWITHDASIAaANDOXIAeVARIAnOXIAePSILIaANDOXIAeVARIAnTONOSfVARIApTAaWITHDASIAaANDOX
IAaANDYPOGEGRAMMENIuPERISPOMENIaANDYPOGEGRAMMENIÁVARIAaANDYPOGEGRAMMENIvYPOGEGRAMMENIvOXIAaANDYPOGE
GRAMMENIuPERISPOMENIaANDYPOGEGRAMMENIÀSILIaANDOXIAaANDYPOGEGRAMMENIuPERISPOMENIaANDYPOGEGRAMMENIÁVA
RIAaANDYPOGEGRAMMENIvYPOGEGRAMMENIvTONOSfVARIAaANDYPOGEGRAMMENIvYPOGEGRAMMENIuFINALSIGMAkGAMMAfHETA
eIOTAaWITHDASIAaANDOXIAePERISPOMENIlVARIAmIALYTIKAaANDOXIAePERISPOMENIlTONOSfVARIArMACRONgOXIAePERI
SPOMENIkSILIaANDOXIAePERISPOMENIlVARIAnTONOSfVARIAeRACHYoKAPPAeOPPAfLAMDAfMUcNUcOMEGAaWITHDASIAaAND
OXIAaANDYPOGEGRAMMENIuPERISPOMENIaANDYPOGEGRAMMENIÁVARIAaANDYPOGEGRAMMENIvYPOGEGRAMMENIvOXIAaANDYPO
GEGRAMMENIuPERISPOMENIaANDYPOGEGRAMMENIÀSILIaANDOXIAaANDYPOGEGRAMMENIuPERISPOMENIaANDYPOGEGRAMMENIÁ
VARIAaANDYPOGEGRAMMENIvYPOGEGRAMMENIvTONOSfVARIAaANDYPOGEGRAMMENIvYPOGEGRAMMENIuICRONaWITHDASIAaAND
OXIAeVARIAnOXIAePSILIaANDOXIAeVARIAnTONOSfVARIAqPAMPHYLIANDIGAMMAqHIcIbSIdRHOaWITHDASIAfPSILImSAMPI
dNcHOcIGMAeTIGMAgTAUcHETAfUPSILONaWITHDASIAaANDOXIAePERISPOMENIlVARIAmIALYTIKAaANDOXIAePERISPOMENIl
TONOSfVARIArMACRONgOXIAePERISPOMENIkSILIaANDOXIAePERISPOMENIlVARIAnTONOSfVARIAeRACHYrXIcZETAkREVERS
EDDOTTEDLUNATESIGMASYMBOLxLUNATESIGMASYMBOLÃUBSCRIPTSMALLLETTERBETAeCHIdGAMMAfPHIdRHOwYMBOLTAURHOmT
ALENTSIGNjHETASYMBOLjREEOBOLSSIGNjQUARTERSSIGNqONOSeRYBLIONBASESIGNpWOOBOLSSIGNjTHIRDSSIGNnUPSILONW
ITHACUTEANDHOOKSYMBOLsDIAERESISANDHOOKSYMBOLwHOOKSYMBOLvVARIAeOCALNOTATIONSYMBOL1a0b1b2b3b4b5b6b7b8
b9c2a0b1b2b3b4c3b4b5a0b1b2b3b4c6b7b8b9uXESTESSIGNkYEARSIGNhPOGEGRAMMENInZEROSIGNjNAPPLEfBOOKeHEARTf
SALADhYHEARThIMACINGFACEkNNINGCATFACEWITHSMILINGEYESwFACEaWITHONELARGEANDONESMALLEYEwSMILINGEYESkTA
REYESwOUPMARKeSEPARATORlWINGHEARTlSbUARANISIGNhDSMANhIDEDOGfTAReJARATIABBREVIATIONSIGNqDIGITEIGHTfF
IVEdOUReNINEeONEdSEVENeIXdTHREEeWOdZEROjLETTERAaAbIbUcBAbHAdCAbHAdDAbDAbHAdHAdEbGAbHAdHAcIaIcJAbHAd
KAbHAdLAbLAdMAcNAbGAcNAcYAdObPAbHAdRAcSAbHAcSAdTAbHAcTAbHAeUaUcVAbOCALICLaLcRaRjYAcZHAjOMcRUPEESIGN
jSIGNANUSVARAhVAGRAHAiCANDRABINDUkIRCLENUKTAABOVEqMADDAHgNUKTAfSHADDAfUKUNfTHREEDOTNUKTAABOVErWOCIR
CLENUKTAABOVEtVIRAMAeSARGAlVOWELCANDRAEbOhSIGNAAbIbUcCANDRAEbOhEbIaIcObUaUcVOCALICLaLcRaRyNJALAGOND
IDIGITEIGHTfFIVEdOUReNINEeONEdSEVENeIXdTHREEeWOdZEROjLETTERAaAbIbUcBAbHAdCAbHAdDAbDAbHAdHAdEEcGAbHA
dHAcIaIcJAbHAdKAbHAdLAbLAdMAcNAbGAdOOcPAbHAdRAcSAcTAbHAcTAbHAeUaUcVAcYAiOMcSIGNANUSVARAiVISARGAlVIR
AMAfOWELSIGNAAbIbUcEEcIaIcOOcUaUvRMUKHIABBREVIATIONSIGNpDDAKfDIGITEIGHTfFIVEdOUReNINEeONEdSEVENeIXd
THREEeWOdZEROjEKONKARhIRIdLETTERAaAbIbUcBAbHAdCAbHAdDAbDAbHAdHAdEEcFAcGAbHAbHAeHAcIaIcJAbHAdKAbHAbH
AeLAbLAdMAcNAbGAcNAcYAdOOcPAbHAdRAbRAdSAbHAdTAbHAcTAbHAeUaUcVAcYAcZAiSIGNADAKBINDIjBINDIfNUKTAfUDAA
TfVIRAMAeSARGAhYAKASHkTIPPIfURAdVOWELSIGNAAbIbUcEEcIaIcOOcUaUtHADESdIRCUTdPICKeSPACEhLFWIDTHBLACKSQ
UARElDOWNWARDSARROWoFORMSLIGHTVERTICALsHANGULFILLERgLETTERAaEcCHIEUCHgIEUCfEaObUcHIEUHfIaEUNGfKHIEU
KHgIYEOKaSIOSkMIEUMfNIEUNaCIEUCfHIEUHkOaEcPHIEUPHgIEUPaSIOSjRIEULaHIEUHfKIYEOKgMIEUMfPHIEUPHgIEUPfS
IOSeTHIEUTHmSIOSdSANGCIEUCfKIYEOKgPIEUPfSIOSeTIKEUTlTHIEUTHgIKEUTgUbWAaEcEaOcIcYAaEcEaOcIbObUoIDEOG
RAPHICCOMMAfFULLSTOPtKATAKANAHIRAGANAPROLONGEDSOUNDMARKÀLETTERAbEbHAbEbIbObUcIbKAbEbIbObUcMAbEbIbOb
UcNaAbEbIbObUcObRAbEbIbObUcSAbEbIbMALLAbEbIbObTUcUbYAbObUgObUcTAbEbIbObUcUbWAbOcYAbObUiMIDDLEDOTjSE
MIVOICEDSOUNDMARKtVOICEDSOUNDMARKxLEFTCORNERBRACKETnWARDSARROWoRIGHTCORNERBRACKETnWARDSARROWpUPWARD
SARROWmWHITECIRCLEsMBURGERgMERaANDPICKeSICKLEgWRENCHmSAbTERFACEjNDBAGbLLeSHAKEfWITHINDEXANDMIDDLEFI
NGERSCROSSEDxFINGERANDTHUMBCROSSEDÅGULCHOSEONGCEONGCHIEUMCHIEUCHgIEUCfSIOSdSANGCIEUCfSIOStHIEUCHaHI
EUHfKHIEUKHlTUEUMCHIEUCHgIEUCfSIOSdSANGCIEUCfSIOSqIEUCaIEUNGkFILLERgHIEUHaSIOSjIEUNGaCHIEUCHgIEUCfH
IEUHfKIYEOKgMIEUMfPANSIOSgHIEUPHgIEUPfRIEULfSIOSeTHIEUTHgIKEUTlKAPYEOUNMIEUMfPHIEUPHgIEUPfRIEULfSSA
NGPIEUPrHIEUKHgIYEOKaTIKEUTmMIEUMaKIYEOKgPIEUPfSIOSeTIKEUTlNIEUNaCIEUCfHIEUHfKIYEOKgPIEUPfSIOSeTIKE
UTlPANSIOSgHIEUPHaHIEUHfPIEUPlIEUPaCHIEUCHgIEUCfHIEUHfKHIEUKHgIYEOKgNIEUNfPHIEUPHhSIOSaCIEUCfKIYEOK
gPIEUPfTHIEUTHgIKEUTjSANGSIOSjTHIEUTHgIKEUTlRIEULaCIEUCfHIEUHfKAPYEOUNPIEUPmHIEUKHgIYEOKgMIEUMfNIEU
NfPIEUPfSIOSdSANGKIYEOKgPIEUPfTIKEUTlTIKEUTlSIOSaCHIEUCHgIEUCfHIEUHfIEUNGfKHIEUKHgIYEOKgMIEUMfNIEUN
fPHIEUPHgIEUPaKIYEOKlRIEULfSSANGSIOSjTHIEUTHgIKEUTjSANGCIEUCaHIEUHkHIEUHfIEUNGfKIYEOKgNIEUNfPIEUPfR
IEULfSIOSaPIEUPjTHIEUTHgIKEUTgYEORINHIEUHqTHIEUTHgIKEUTaCIEUCfKIYEOKgMIEUMfPIEUPfRIEULfSIOSkYEORINH
IEUHjSIEUNGqDOUBLEDOTTONEMARKrFILLERgJONGSEONGCHIEUCHgIEUCaPIEUPfSSANGPIEUPpHIEUHaMIEUMfNIEUNfPIEUP
fRIEULkIEUNGaKHIEUKHgIYEOKgSSANGKIYEOKqKAPYEOUNMIEUMfPHIEUPHgIEUPfRIEULmHIEUKHgIYEOKaCHIEUCHhHIEUHf
KHIEUKHhNIEUNfPIEUPfRIEULfSIOSaKIYEOKqMIEUMaCHIEUCHgIEUCfHIEUHfKIYEOKgNIEUNfPANSIOSgIEUPaSIOSjRIEUL
fSIOSdSANGNIEUNfSIOSoNIEUNaCHIEUCHgIEUCfHIEUHfKIYEOKgPANSIOShRIEULfSIOSeTHIEUTHgIKEUTlPANSIOSaKAPYE
OUNPIEUPnPIEUPlHIEUPHaPIEUPfSIOSeTHIEUTHnIEUPaCHIEUCHgIEUCfHIEUHfMIEUMfPHIEUPHhRIEULaPHIEUPHmSIOSaT
IKEUTkTIKEUTlRIEULaHIEUHfKAPYEOUNPIEUPmHIEUKHgIYEOKaHIEUHfSIOSkMIEUMaHIEUHfKIYEOKgSIOSjNIEUNfPANSIO
SgHIEUPHgIEUPaHIEUHfPHIEUPHhSIOSeTIKEUTlSIOSdSANGKIYEOKgSIOSjTHIEUTHgIKEUTaHIEUHlYEORINHIEUHaHIEUHo
SIEUNGnSIOSaCHIEUCHgIEUCfHIEUHfKAPYEOUNPIEUPmIYEOKgMIEUMfPANSIOSgIEUPfRIEULfTHIEUTHgIKEUTjSANGCIEUC
fIEUNGfKIYEOKgMIEUMfNIEUNfPIEUPfRIEULaKHIEUKHmSIOSaKIYEOKgTIKEUTkTIKEUTaPIEUPlYESIEUNGnTHIEUTHgIKEU
TaCHIEUCHgIEUCfKIYEOKgPIEUPfRIEULfSIOSaKIYEOKkTHIEUTHnYEORINHIEUHjSIEUNGaHIEUHfKHIEUKHgIYEOKgMIEUMf
PANSIOShSIOSdSANGKIYEOKÁUNGSEONGAaEaUcObRAEAaAbEaOcIbUfUcEaOaEUcObUcUaAbEaObUcObUdFILLERgIaAaRAEAfE
UcIbOaIcUbYAaEbOcEaOcObUdOaEaOcOaIcUbYAaEcEaOeSSANGARAEAkUaAaEcEOEUeIIcUbYEaOeWAaEcEaOcIcYAaEbObUbY
OdEaOaObUbYAeIaUcOaAaEcEOcIbObYAaEcEOeUaAaEcEaOcIbObUbYEaOoLETTERAaEbRAEAaEgCHIEUCHgIEUCfEaObUcHIEU
HfIaEUNGfKAPYEOUNMIEUMfPHIEUPHgIEUPfSSANGPIEUPrHIEUKHgIYEOKaSIOSkMIEUMaPANSIOSgIEUPfSIOSjNIEUNaCIEU
CfHIEUHfPANSIOShSIOSeTIKEUTlOaEcPANSIOSgHIEUPHgIEUPaCIEUCfKIYEOKgSIOSaKIYEOKgTIKEUTkTHIEUTHgIKEUTlR
IEULaHIEUHfKIYEOKaSIOSkMIEUMfPANSIOSgHIEUPHgIEUPaSIOSjSIOSeTHIEUTHgIKEUTgYEORINHIEUHqSIOSaCIEUCfKIY
EOKgNIEUNfPIEUPfTIKEUTjSANGCIEUCfHIEUHfIEUNGfKIYEOKgNIEUNfPIEUPfSIOSeTIKEUTlTHIEUTHgIKEUTgUbWAaEcEa
OcIcYAaEcEaOaRINHIEUHjSIEUNGaPANSIOShSIOSlIbOaIbYAaEeUaIbYEaOlSINGLEDOTTONEMARKtZHOUNUMERALEIGHTfFI
VEdOUReNINEeONEdSEVENeIXdTENcHIRTYeREEeWENTYeOpIFIROHINGYADIGITEIGHTfFIVEdOUReNINEeONEdSEVENeIXdTHR
EEeWOdZEROjLETTERAbBAcCAcDAbDAdFAcGAcHAcJAcKAbHAcINNAWAcYAhLAcMAcNAbGAcYAdPAcRAbRAdSAbHAdTAbTAdVAcW
AcYAcZAiMARKNAKHONNAiSAKINjSIGNHARBAHAYiTAHALAeNAcSSIjVOWELAbEbIbObUrUNOOLETTERAbBAcDAcGAcHAcIbKAcL
AcMAcNAbGAdPAcRAcSAcTAcUbWAcYAiSIGNPAMUDPODmVOWELSIGNIbUpPPYPERSONRAISINGONEHANDxRDDISKgTCHINGCHICK
kRANLETTERALEPHeYNdBETHeDALETHRESHkGIMELfHEaTHeKAPHeLAMEDHgMEMdNUNdPEcQOPHeSADHEdMEKHfHINeTAWcETHeW
AWdYODHeZAYNkNUMBERFIVEeONEaHUNDREDkTENcWENTYqUMEAfEADPHONEfSTONEaGRAVEYARDSYMBOLvRNOEVILMONKEYmTDE
CORATIONkHANDSfWITHARROWfRIBBONgTIPONTHELEFTsVYAMPERSANDORNAMENTqRROWSHAFTWIDTHONEaHALFeTHIRDiTWOTH
IRDSxSTERISKiBALLOTXgLACKCURVEDDOWNWARDSANDRIGHTWARDSARROWÁUPWARDSANDRIGHTWARDSARROWÅFEATHEREDNORTH
EASTARROWoRIGHTWARDSARROWpSOUTHEASTARROWxHEARTkCHECKMARKgVRONSNOWFLAKEpIRCLEaDSALTIREiWITHCIRCLEINS
IDEmSTROKEANDTWODOTSABOVEÄONCAVEPOINTEDBLACKRIGHTWARDSARROWÈDASHEDTRIANGLEHEADEDRIGHTWARDSARROWÈIVI
SIONSIGNlOLLARSIGNiUBLECOMMAQUOTATIONMARKORNAMENTÀTURNEDCOMMAQUOTATIONMARKORNAMENTÊWNWARDSARROWWITH
EQUILATERALARROWHEADuLARGEEQUILATERALARROWHEADÑEIGHTPOINTEDBLACKSTARjPINWHEELSTARmRECTILINEARBLACKS
TARÁSPOKEDASTERISKoTEARDROPSPOKEDPROPELLERASTERISKÉQUALSSIGNjXCLAMATIONMARKORNAMENTiSYMBOLvFIVEPOIN
TEDBLACKSTARqSPOKEDASTERISKrOURBALLOONSPOKEDASTERISKzGREEKCROSSkHEARTEXCLAMATIONMARKORNAMENTÁORIZON
TALFILLoINTERROBANGORNAMENTtLARGECIRCLEjTINCROSSjEFTPOINTINGANGLEBRACKETORNAMENTpQUOTATIONMARKORNAM
ENTÈWARDSARROWWITHEQUILATERALARROWHEADuLARGEEQUILATERALARROWHEADÐIGATUREOPENETORNAMENTvOWDOUBLECOMM
AQUOTATIONMARKORNAMENTÆERRIGHTSHADOWEDWHITERIGHTWARDSARROWÉSINGLECOMMAQUOTATIONMARKORNAMENTÉMINUSSI
GNiULTIPLICATIONXpNORTHEASTARROWfPOINTINGBUDdVINELEAFuWESTPOINTINGBUDdVINELEAFzOPENCENTRECROSSoUTLI
NEDBLACKSTARqVALWITHOVALINSIDEsPLUSSIGNiRIGHTPOINTINGANGLEBRACKETORNAMENTpQUOTATIONMARKORNAMENTÈWAR
DSARROWaWITHEQUILATERALARROWHEADuLARGEEQUILATERALARROWHEADÑOUNDTIPPEDRIGHTWARDSARROWÀSALTIREfNSSERI
FINTERROBANGORNAMENTÁCRIPTLIGATUREETORNAMENTxINGLECOMMAQUOTATIONMARKORNAMENTÀTURNEDCOMMAQUOTATIONMA
RKORNAMENTÊXPOINTEDBLACKSTARqSPOKEDASTERISKqOUTHEASTARROWfPOINTINGBUDdVINELEAFuWESTPOINTINGBUDdVINE
LEAFyPARKLEhTEARDROPSHANKEDRIGHTWARDSARROWvPOKEDASTERISKiPINWHEELASTERISKÃRIANGLEHEADEDRIGHTWARDSAR
ROWÂWELVEPOINTEDBLACKSTARjPINWHEELSTARzUPPERRIGHTSHADOWEDWHITERIGHTWARDSARROWÊWARDSARROWWITHEQUILAT
ERALARROWHEADuLARGEEQUILATERALARROWHEADÏVERTICALBARlWEDGETAILEDRIGHTWARDSARROWzHITECIRCLEgDOWNPOINT
INGTRIANGLEuSQUAREkIDEHEADEDRIGHTWARDSARROWÂBREWACCENTATNAHHAFUKHlDARGAeEHIeETNAHTAhGERESHaMUQDAMjS
HAYIMjILUYeMAHAPAKHhERKHAaKEFULAlUNAHfOLEdPASHTAeZERfQADMAdRNEYPARAkREVIAfSEGOLeHALSHELETkTELISHAGE
DOLAgQETANAlVIReIPEHAgYERAHBENYOMOkTIVfZAQEFGADOLfQATANiRQAeINORlLETTERALEFaWITHMAPIQfPATAHfQAMATSm
TERNATIVEAYINePLUSSIGNsYINeBETaWITHDAGESHgRAFElDALETaWITHDAGESHpFINALKAFaWITHDAGESHnMEMdNUNdPEaWITH
DAGESHmTSADIkGIMELaWITHDAGESHpHEaTbWITHMAPIQlKAFaWITHDAGESHgRAFElLAMEDaWITHDAGESHpMEMaWITHDAGESHnNU
NaWITHDAGESHnPEaWITHDAGESHgRAFEkQOFaWITHDAGESHnRESHaWITHDAGESHoSAMEKHaWITHDAGESHpHINaWITHDAGESHaAND
SHINDOTgINDOTpSHINDOTgINDOToTAVaWITHDAGESHmETaWITHDAGESHmSADIaWITHDAGESHpVAVaWITHDAGESHgHOLAMmWIDEA
LEFeDALETfFINALMEMiHEcKAFdLAMEDfRESHeTAVhYODaWITHDAGESHgHIRIQmZAYINaWITHDAGESHuIGATUREALEFLAMEDjYID
DISHDOUBLEVAVdYODjVAVYODgYODYODPATAHÀMARKLOWERDOTiMASORACIRCLEmUPPERDOTmPOINTDAGESHORMAPIQnHATAFPAT
AHfQAMATSgSEGOLjIRIQeOLAMaHASERFORVAVqJUDEOSPANISHVARIKAsMETEGfPATAHfQAMATSaQATANkUBUTSgRAFEeSEGOLe
HEVAdINDOTgINDOTgTSEREjUNCTUATIONGERESHdSHAYIMjMAQAFfNUNHAFUKHAkPASEQfSOFPASUQtYODTRIANGLEpDGEHOGgL
ICOPTERhLSCHREIBERPAUSESYMBOLvMETWITHWHITECROSSqSYMBOLiNTAIGANALETTERA1b2b3bWOdE1b2b3b4b5b6cHA1a0b1
c2b3b4b5b6b7b8b9cE1b2b3b4b5b6b7cI1b2b3b4b5b6b7cO1b2b3b4b5b6b7b8cU1b2b3dI1b2b3b4cKA1a0b1c2b3b4b5b6b7
b8b9bKEdE1b2b3b4b5b6cI1b2b3b4b5b6b7b8cO1b2b3bKIdU1b2b3b4b5b6b7dMA1b2b3b4b5b6b7cE1b2bMAdI1b2b3b4b5b6
b7cO1b2b3b4b5b6cU1b2b3b4dNA1b2b3b4b5b6b7b8b9cE1b2b3b4b5b6bKOdI1b2b3b4b5b6b7bTEdMUMO1b2fO1b2b3b4b5cU
1b2b3dO1b2b3cRA1b2b3b4cE1b2b3b4cI1b2b3b4b5b6b7cO1b2b3b4b5b6cU1b2b3b4b5b6dSA1b2b3b4b5b6b7b8cE1b2b3b4
b5cI1b2b3b4b5b6cO1b2b3b4b5b6b7cU1b2b3b4b5b6b7b8dTA1b2b3b4cE1b2b3b4b5b6b7b8b9cI1b2b3b4b5b6b7cO1b2b3b
4b5b6bRAdU1b2b3b4bTOeU1b2b3b4b5cWA1b2b3b4b5cE1b2b3b4cI1b2b3b4b5cO1b2b3b4b5b6b7dYA1b2b3b4b5bYOdO1b2b
3b4b5b6cU1b2b3b4rRBbMITIANCONJUGATEMATRIXwXAGRAMFORABUNDANCEiFTERCOMPLETIONoPPROACHiBEFORECOMPLETIO
NpITINGTHROUGHmREAKTHROUGHmCOMINGTOMEETkNFLICTfTEMPLATIONnDARKENINGOFTHELIGHTsECREASEgLIVERANCEjVEL
OPMENTkIFFICULTYATTHEBEGINNINGwSPERSIONjURATIONiENTHUSIASMkFELLOWSHIPjOLLOWINGjGATHERINGTOGETHERqRA
CEdEATPOSSESSIONiWEReREPONDERANCEnTAMINGlHOLDINGTOGETHERpINCREASEgFLUENCEhNERTRUTHhOCENCEjLIMITATIO
NkMODESTYfUTHCORNERSmOBSTRUCTIONkPPOSITIONhRESSIONkPEACEeROGRESShUSHINGUPWARDnRETREATeURNeVOLUTIONk
SMALLPREPONDERANCEnTAMINGkPLITTINGAPARTnTANDSTILLkTHEABYSMALWATERlRMYcOUSINGTHUNDERpCAULDRONhLINGIN
GFIRElREATIVEHEAVENoFAMILYgGENTLEWINDkJOYOUSLAKEkKEEPINGSTILLMOUNTAINuMARRYINGMAIDENoRECEPTIVEEARTH
oWANDERERhELLgREADINGiWAITINGgORKONTHEDECAYEDqYOUTHFULFOLLYxIBISCUSgGHBRIGHTNESSSYMBOLqHEELEDSHOEkO
CTETPRESETlSPEEDTRAINaWITHBULLETNOSEyVOLTAGESIGNnKINGBOOTiNDUTEMPLEjPPOPOTAMUSkRAGANADIGRAPHYORIlIT
ERATIONMARKnLETTERAaRCHAICWUcYEjBAbEbIbObUcDAbEbIbObUcEbGAbEbIbObUcHAbEbIbObUcIbKAbEbIbObUcMAbEbIbO
bUcNaAbEbIbObUcObPAbEbIbObUcRAbEbIbObUcSAbEbIbMALLAbEbIbKAbEbOcObTUcUbWAbEbIbOcYAbObUgObUcTAbEbIbOb
UcUbVUcWAbEbIbOcYAbObUcZAbEbIbObUiVOICEDITERATIONMARKzSTORICSITElOCHOdLEbLOWQUILTSQUAREORNAMENTaINB
LACKSQUAREÊMOTHETICiNEYBEEdPOTgOKcPbRIZONTALBARcLACKHEXAGONhOCTAGONmELLIPSISiLINEEXTENSIONnMALEWITH
STROKESIGNsONEEIGHTHBLOCK1358e2b3b4b5b6b7pSCANLINE1b3b7b9jTABKEYdULATIONaSETdWITHJUSTIFICATIONÀRAFF
ICLIGHTtSEaFACEeRACINGjSPITALgTBEVERAGEiDOGdELcPEPPERgSPRINGSiURGLASSaWITHFLOWINGSANDvSEaBUILDINGaS
jWITHGARDENoRYVNIASIGNkTaJbScUGGINGFACEjNDREDPOINTSSYMBOLrSHEDFACEiTcYACINTHgGIEAePHENaATIONPOINTkB
ULLETgMINUSfWITHDIAERESISqODIASTOLEkSTERESISSYMBOLqICECREAMeUBEeHOCKEYSTICKANDPUCKsSKATEhDENTICALTO
aANDSLANTEDPARALLELuWITHDOTABOVEpFICATIONCARDpOGRAPHICANNOTATIONBOTTOMMARKkEARTHMARKjFIRSTMARKiOURM
ARKeTHMARKkHEAVENMARKkLINKINGMARKlMANMARKgIDDLEMARKkONEMARKhREVERSEMARKlSECONDMARKkTHIRDMARKhREEMAR
KiOPMARKgWOMARKrCLOSINGMARKkOMMAfDEPARTINGTONEMARKpSCRIPTIONCHARACTERABOVETOBELOWfMIDDLEANDBELOWvFU
LLSURROUNDmLEFTTOMIDDLEANDRIGHToRIGHTlOVERLAIDiSURROUNDFROMABOVEfBELOWfLEFTdOWERLEFTjUPPERLEFTeRIGH
TÐENTERINGTONEMARKqFULLSTOPiHALFFILLSPACEnITERATIONMARKnLEVELTONEMARKnNUMBERZEROkRISINGTONEMARKoSPA
CEfTALLYMARKFIVEdOUReONEdTHREEeWOlELEGRAPHLINEFEEDSEPARATORSYMBOLxSYMBOLFORAPRILeUGUSTgDAYEIGHTaEEN
hLEVENgFIFTEENfVEdOURaTEENiNINEaTEENiONEdSEVENaTEENiIXaTEENhTENcHIRTEENdYaONEhREEeWELVEdNTYaEIGHTfF
IVEdOUReNINEeONEdSEVENeIXdTHREEeWOhOfECEMBERiFEBRUARYiHOUREIGHTaEENhLEVENgFIFTEENfVEdOURaTEENiNINEa
TEENiONEdSEVENaTEENiIXaTEENhTENcHIRTEENgREEeWELVEdNTYaFOUReONEdTHREEeWOhOdZEROiJANUARYgULYcNEeMARCH
dYdNOVEMBERiOCTOBERhSEPTEMBERÁVARIATIONINDICATORÂLOVEYOUHANDSIGNpMAGEOFaORAPPROXIMATELYEQUALTOÁPaER
IALARAMAICLETTERALEPHeYINeBETHeDALETHgGIMELfHEaTHeKAPHeLAMEDHgMEMdNUNdPEcQOPHeRESHeSADHEdMEKHfHINeT
AWcETHeWAWdYODHeZAYINlNUMBERONEaHUNDREDhTHOUSANDlTENaTHOUSANDkHREEeWENTYeOjSECTIONSIGNzNBOXTRAYhCOM
INGENVELOPElPLETEINFINITYpREASEFONTSIZESYMBOLoSASgMENThDaEXaPOINTINGATTHEVIEWERvIANRUPEESIGNlCSIYAQ
ALTERNATELAKHMARKrFRACTIONONEHALFeQUARTERkTHREEQUARTERSvLAKHMARKiNUMBERALTERNATEONEdTENTHOUSANDkWOm
EIGHTaHUNDREDhTHOUSANDiYaTHOUSANDoFIFTYaTHOUSANDlVEaHUNDREDhTHOUSANDlORTYaTHOUSANDlURaHUNDREDhTHOUS
ANDmKARORaANhLAKHaANgNINEaHUNDREDhTHOUSANDhYaTHOUSANDoONEaHUNDREDhTHOUSANDlPREFIXEDEIGHTfFIVEdOUReN
INEeONEdSEVENeIXdTHREEeWOlSEVENaHUNDREDhTHOUSANDhYaTHOUSANDoIXaHUNDREDhTHOUSANDhYaTHOUSANDnTENaTHOU
SANDkHIRTYaTHOUSANDmREEaHUNDREDhTHOUSANDmWENTYaTHOUSANDmOaHUNDREDhTHOUSANDrPLACEHOLDERlRUPEEMARKrFI
NITYaNEGATEDWITHVERTICALBARÁORMATIONDESKPERSONkSEPARATORFOUReONEdTHREEeWOlOURCEpHIBITARABICFORMSHAP
INGrSYMMETRICSWAPPINGwPUTSYMBOLFORLATINCAPITALLETTERSoLETTERShSMALLLETTERSrNUMBERShSYMBOLStSCRIPTIO
NALPAHLAVILETTERALEPHfBETHeDALETHgGIMELfHEaTHeKAPHeLAMEDHgMEMQOPHhNUNdPEcSADHEdMEKHfHINeTAWcETHeWAW
AYINRESHlYODHeZAYINlNUMBERFOUReONEaHUNDREDhTHOUSANDlTENcHREEeWENTYeOoRTHIANLETTERALEPHeYINeBETHeDAL
ETHgGIMELfHEaTHeKAPHeLAMEDHgMEMdNUNdPEcQOPHeRESHeSADHEdMEKHfHINeTAWcETHeWAWdYODHeZAYINlNUMBERFOUReO
NEaHUNDREDhTHOUSANDlTENcHREEeWENTYeOÁERTIONSYMBOLnTEGRALaAROUNDAPOINTOPERATORtVERAGEWITHSLASHqEXTEN
SIONjWITHDOUBLESTROKEmINTERSECTIONmLEFTWARDSARROWWITHHOOKwOVERBARhTIMESSIGNjUNDERBARgIONnRCALATEgIO
RPRODUCTkLINEARANNOTATIONANCHORgSEPARATORjTERMINATORzOCKEDFEMALEANDMALESIGNxROBANGgSECTIONaABOVEBAR
ABOVEUNIONnUNIONkBESIDEANDJOINEDWITHINTERSECTIONÅWITHDOTdLOGICALANDkOVERBARvVERSEBULLETgCHECKERBOAR
DFILLlMARKjDOWNWARDSARROWWITHTIPLEFTWARDSÄMEDIUMSHADElWHITECIRCLEnTEDEXCLAMATIONMARKpINTERROBANGlLA
ZYSeOWKAVYKAaWITHKAVYKAABOVEyOHMSIGNhPENTAGRAMjQUESTIONMARKmUNDERTIEnISIBLEPLUSeSEPARATORjTIMESnZAK
AYALANTERNoJACKOLANTERNkPANESEBANKSYMBOLkCASTLEgDOLLSfGOBLINgINDUSTRIALSTANDARDSYMBOLyOGREePOSTOFFI
CEkSYMBOLFORBEGINNERxRbVANESECONSONANTSIGNCAKRAfKERETfPENGKALuDIGITEIGHTfFIVEdOUReNINEeONEdSEVENeIX
dTHREEeWOdZEROjLEFTRERENGGANlTTERAaIcBAaMURDAhCAaMURDAhDAaMAHAPRANAkDAaMAHAPRANAmEbGAaMURDAhHAcIaIb
KAWIfJAaMAHAPRANAlKAaMURDAfSASAKhLAcMAcNAaMURDAgGAaLELETaRASWADIoYAaMURDAiObPAaCEREKfMURDAhRAaAGUNG
hSAaMAHAPRANAiURDAhTAaMURDAgTAaMAHAPRANAmUbWAcYAiPADAADEGaADEGhNDAPfISENISENiLINGSAfUHURdNGSIgMADYA
fPANGKATgISELEHhTIRTATUMETESmWINDUhNGKONdRANGKEPlRIGHTRERENGGANoSIGNCECAKaTELUjLAYARfPANYANGGAjWIGN
YANlTURNEDPADAPISELEHrVOWELSIGNDIRGAMUREjPEPETfSUKUaMENDUTkTALINGeRUNGfOLONGgWULUaMELIKzEANSdLLYFIS
HiIGSAWPUZZLEPIECEqOINcYSTICKhUGGLINGgNOcPITERhKAABAdITHIABBREVIATIONSIGNqDANDAeOUBLEDANDAfSECTIONM
ARKrENUMERATIONSIGNpLETTERAaAbIbUcBAbHAdCAbHAdDAbDAbDHAdHAdHAdEbGAbHAdHAcIaIcJAbHAdKAbHAdLAcMAcNAbG
AcNAcYAdObPAbHAdRAbHAdSAbHAcSAdTAbHAcTAbHAeUaUcVAcYAiNUMBERSIGNaABOVEpSECTIONMARKkIGNANUSVARAiCANDR
ABINDUlNUKTAfVIRAMAeSARGAlVOWELSIGNAAbIbUcEbIaIcObUaUcVOCALICRvKTOVIKNUMERALEIGHTaEENhLEVENgFIFTEEN
fVEdOURaTEENiNINEaTEENiONEdSEVENaTEENiIXaTEENhTENcHIRTEENgREEeWELVEeOdZEROrNGAROOeXIRADICALAGAINeND
cRRIVEdOWeXEdBADGEReMBOOfEANdIGbRDcTTERfLACKdOODdUEdOATcDYcLTOFCLOTHjNEcWcRANCHeISTLEfUSHfCARTcULDR
ONgVEdHILDeITYdLANbWcIFFdOTHESgOLORdMPAREfRPSEeVERdWdDEATHdERdIPPEReSHbTINGUISHjVINATIONjOGbNOTdORc
TaTEDCLIFFfTENTiUBLEXfWNBOXgRAGONeUMcYdEARaTHdTcIGHTeMBROIDERYjNCLOSUREhTEReVENaINGgYEdFACEcNGcTHER
fEATHERgIELDdGHTdREcSHdLUTEdYcOOTdRAGRANTgOGdURdGATEdHOSTeOaLDcSLOWLYhRAINcSSfHAIRcLBERDeFTREETRUNK
lNDdEADbRTdMPdIDINGENCLOSUREoOOKcRNbSEfICEcNCHcSECTgJADEcRdKNIFEfLACKcMEdEAFbTHERfEKcGSdIDbFEcNEdON
GaSTRIDEkMANcEATcLONeILLETeNISTERhOONcRNINGeTAReUNDbTAINfTHfNETcOSEcTdOLDcNEaSELFgPENBOXfPOSEgPIGcL
OWdOWEReRIVATEfOFOUNDiRAINcPbTcEDcICEcGHTOPENBOXkVEReOOFdUNdSACRIFICIALWINEnLTcYcCHOLARfRIPTfEALcCO
NDeEbLFdHEEPcLLdOOTcRTTAILEDBIRDjHREADkICKNESSgLKdKINdLASHcVEdICEeMALLeNOUTeOUNDePEARcECHeIRITeOONd
ROUTfQUAREfTANDdEAMcPcONEcPaPINGhUNcWEETfTABLEdLLcNNEDLEATHERmENcIGERdLEdONGUEeOTHeRACKdEEcIPODfURB
ANdTLEfWOaHANDSiUSEdVALLEYfILLAGEhWALKaENCLOSURElTEReEAPONeSTdHEATdITEeINDbEdOMANdRKdRAPcONGfYELLOW
qNADAAILENGTHMARKmDIGITEIGHTfFIVEdOUReNINEeONEdSEVENeIXdTHREEeWOdZEROjLENGTHMARKiTTERAaAbIbUcBAbHAd
CAbHAdDAbDAbHAdHAdEaEcFAcGAbHAdHAcIaIcJAbHAdKAbHAdLAbLAbLAeMAcNAaKAARAPOLLUlGAcNAcYAdOaOcPAbHAdRAbR
AdSAbHAcSAdTAbHAcTAbHAeUaUcVAbOCALICLaLcRaRjYAiSIGNANUSVARAhVAGRAHAiCANDRABINDUkOMBININGANUSVARAABO
VERIGHTÁJIHVAMULIYAlNUKTAfSIDDHAMgPACINGCANDRABINDUsUPADHMANIYAlVIRAMAeSARGAlVOWELSIGNAAbIbUcEaEcIa
IcOaOcUaUcVOCALICLaLcRaRxTAKANADIGRAPHKOTOlHIRAGANADOUBLEHYPHENmPROLONGEDSOUNDMARKsSEMIVOICEDSOUNDM
ARKtVOICEDSOUNDMARKxITERATIONMARKnLETTERAaRCHAICEbWUcYEbIjBAbEbIbObUcDAbEbIbObUcEbGAbEbIbObUcHAbEbI
bObUcIbKAbEbIbObUcMAbEbIaNNANNASALIZEDTONE1b2b3b4b5b7b8oTONE2b3b4b5b7b8kObUcNaAbEbIbObUcObPAbEbIbOb
UcRAbEbIbObUcSAbEbIbMALLAbEbHAbEbIbObUcIbKAbEbObUcMUcNaUcObRAbEbIbObUcSIbUcTObUcUbWAbEbIbOcYAbObUgO
bUcTAbEbIbObUcUbVAbEbIbObUcWAbEbIbOcYAbObUcZAbEbIbObUiMIDDLEDOTjVOICEDITERATIONMARKzWICONJOINERjDAN
DAeIGITEIGHTfFIVEdOUReNINEeONEdSEVENeIXdTHREEeWOdZEROiOUBLEDANDAlLETTERAaAbIcBAbHAdCAbHAdDAbDAbHAdH
AdEbGAbHAdHAcIaIcJAbHAcNYAeKAbHAdLAcMAcNAbGAcNAcYAdObPAbHAdRAcSAbHAcSAdTAbHAcTAbHAeUaUcVOCALICLaLcR
aRjWAcYAiPUNCTUATIONALTERNATESECTIONMARKERwCIRCLEfLOSINGSPIRALnDOTbUBLEDOTjFILLEDCIRCLElLOWERgSECTI
ONMARKERmPACEFILLERjIRALgTRIPLEDOTuSIGNANUSVARAiCANDRABINDUlKILLERgREPHAfVISARGAlVOWELSIGNAAbIbLTER
NATEAAlEaUcIaIcUaUcVOCALICRtYAHLIDIGITEIGHTfFIVEdOUReNINEeONEdSEVENeIXdTHREEeWOdZEROjLETTERAbBAcCAc
DAcGAcHAbTAdIbKAbHAdLAcMAcNAbGAcYAdOEbOcPAbHAdRAcSAbHAdTAbHAdVAcWAcYAcZAiSIGNCWIdSHYAiTONECALYAaPLO
PHUlPLOPHUkVOWELEaEcObUaEnELVINSIGNiYaBOARDaANDMOUSEnCAPTENiHANDAdROSHTHIDIGITFOUReONEdTHREEeWOiFRA
CTIONONEHALFpLETTERAbBAbHAdCAbHAdDAbDAbHAdHAdGAbHAdHAcJAcKAbHAcKAdLAcMAcNAbNAcYAdPAbHAdRAcSAbHAcSAd
TAbHAcTAbHAcTAbHAfVAbHAdYAcZAiNUMBERONEHUNDREDhTHOUSANDlTENcWENTYmPUNCTUATIONCIRCLEfRESCENTBARlDAND
AeOTbUBLEDANDAlLINESeOTUSfMANGALAMiSMALLCIRCLEwSIGNANUSVARAiBARABOVEiCAUDAfDOTBELOWgUBLERINGBELOWpV
ISARGAlVIRAMAfOWELLENGTHMARKkSIGNEbIbObUbVOCALICRzITANSMALLSCRIPTFILLERvMERCURRENCYSYMBOLRIELsDIGIT
EIGHTfFIVEdOUReNINEeONEdSEVENeIXdTHREEeWOdZEROjINDEPENDENTVOWELLYaYdQAAbIbQbUcEbIaIcOOTYPEONEdTWOjU
aKbUaVeRYaYtLETTERBAcCAbHAbOcOcDAbOcHAcKAbHAbOcOcLAbOcMOcNGOcNOcObYOdPHAbOcOcQAcROcSAbHAcSOdTAbHAbO
cObTHAbOeVOcYOiSIGNAHSDAeTTHACANhVAKRAHASANYAnBANTOCeRIYOOSANiTHAMASATjEYYALgCAMNUCPIIKUUHmOENGfKAK
ABATgHANdOOMUUThLEKTOOgMUUSIKATOANlNIKAHIThPHNAEKMUANkREAHMUKgOBATfSAMYOKSANNYAmTOANDAKHIATkRIISAPh
VIRIAMgYUUKALEAPINTUqYMBOLBEIKOETeROCfUONKOETeROChDAPBEIKOETeROCfUONKOETeROChKOETeMUOYKOETeROChPIIK
OETeROCfRAMKOETeROChROCgLEKATTAKBEIcUONeMUOYePIIcRAMaBEIcUONeMUOYePIIhSONlMUOYKOETeROChPATHAMASATjI
IKOETeROCfRAMBEIKOETeROCfUONKOETeROChKOETeMUOYKOETeROChPIIKOETeROCgROChTUTEYASATpVOWELINHERENTAAbQk
SIGNAAbEbIbUcEbIaEbIcOEbOcUaAbUcYaAbYoOJKIABBREVIATIONSIGNqDANDAeOUBLEDANDAfSECTIONMARKrLETTERAaAbI
bUcBAbBAcHAdCAbHAdDAbDAbDAcHAdHAdEbGAbGAcHAdHAcIbJAbJAdKAbHAdLAbLAdMAcNAbGAcNAcYAdObPAbHAdQAcRAcSAb
HORTIgTAbHAcTAbHAeUbVAcYAiSECTIONMARKkIGNANUSVARAiNUKTAfSHADDAfUKUNfVIRAMAkVOWELSIGNAAbIbUcEbIaIcOb
UbVOCALICRrWORDSEPARATORrUDAWADIDIGITEIGHTfFIVEdOUReNINEeONEdSEVENeIXdTHREEeWOdZEROjLETTERAaAbIbUcB
AbBAcHAdCAbHAdDAbDAbDAcHAdHAdEbGAbGAcHAdHAcIaIcJAbHAcJAdKAbHAdLAcMAcNAbGAcNAcYAdObPAbHAdRAbRAdSAbHA
dTAbHAcTAbHAeUaUcVAcYAiSIGNANUSVARAiNUKTAfVIRAMAkVOWELSIGNAAbIbUcEbIaIcObUaUtIMONOePSIGNfSSaINGCATF
ACEWITHCLOSEDEYESvFACEaWITHCLOSEDEYESkSMILINGEYESwMARKgTEcWIFRUITiNEELINGPERSONmOTdOALAdREANSTANDAR
DSYMBOLtRONOSgLABCOATeELdCROSSESTICKANDBALLsDDERdYBEETLEiNGUAGETAGjOCANCELLATIONMARKqDIGITEIGHTfFIV
EdOUReNINEeONEdSEVENeIXdTHREEeWOdZEROjELLIPSISiHOMOcNOeKOLAeLETTERBOcCOcDOcFOFAYcONdSUNGeTAMfHOSUNG
eTAMfKHMUGOcNYOfOSUNGeTAMfOcLOaLINGdOOTgMOcNGOcObYOdObPALIBHAdCHAdDDAbHAdHAdGHAdJHAdLLAdNNAcYAdTTAb
HAhHOSUNGeTAMfOcROcSANSKRITSHAcSAkOSUNGeTAMfTHOSUNGeTAMfOcWOcYOiNIGGAHITAjSEMIVOWELSIGNLOcNYOpIGNPA
LIVIRAMAoTONEMAICATAWAgEKcTHOcIjVOWELSIGNAaAbIbMbYcEaIcIaIcMAIKANcONgObUaUcYaYlYAMAKKANjRGEBLUECIRC
LEgDIAMONDhSQUAREjROWNCIRCLEgSQUARElCIRCLEgDOWNTACKiGREENCIRCLEgSQUARElLEFTTRIANGLEOPERATORuONEDOTO
VERTWODOTSPUNCTUATIONzRINGOVERTWORINGSPUNCTUATIONÃRANGECIRCLEgDIAMONDhSQUAREmPURPLECIRCLEgSQUAREmRE
DCIRCLEgSQUAREiTHANaOREQUALTOoTRIPLEVERTICALBAROPERATORyWODOTSOVERONEDOTPUNCTUATIONzRINGSOVERONERIN
GPUNCTUATIONÄUPTACKgYELLOWCIRCLEgSQUAREoISIGNgSTQUARTERMOONaSYMBOLgWITHFACEvTINCAPITALLETTERAaAbEaW
ITHACUTEfMACRONlFRICANDhLPHAeNGLICANAWjObUbVaWITHHORIZONTALBARsWITHACUTEfBREVEaANDACUTEfDOTBELOWiGR
AVEfHOOKABOVEjTILDEnCARONeIRCUMFLEXaANDACUTEfDOTBELOWiGRAVEfHOOKABOVEjTILDEsDIAERESISaANDMACRONrOTA
BOVEaANDMACRONoBELOWgUBLEGRAVElGRAVEfHOOKABOVEjINVERTEDBREVEnMACRONgOGONEKgRINGABOVEaANDACUTEnBELOW
jSTROKEgTILDEjYcBaETAdROKENLgWITHDOTABOVEfBELOWiFLOURISHiHOOKeLINEBELOWjSTROKEgTOPBARlCaHIcLOSEDINS
ULARGnONcUATRILLOaWITHCOMMArWITHACUTEfBARdCARONeEDILLAaANDACUTEoIRCUMFLEXkDOTABOVEiHOOKePALATALHOOK
lSTROKElDaWITHCARONeEDILLAgIRCUMFLEXBELOWpDOTABOVEfBELOWiHOOKeLINEBELOWjSHORTSTROKEOVERLAYrMALLLETT
ERZaWITHCARONuTROKEgTOPBARkZaWITHCARONlEaGYPTOLOGICALAINcLEFqNGcSHcTaHcWITHACUTEfBREVEfCARONeEDILLA
aANDBREVEoIRCUMFLEXaANDACUTEfDOTBELOWiGRAVEfHOOKABOVEjTILDEiBELOWpDIAERESISiOTABOVEfBELOWgUBLEGRAVE
lGRAVEfHOOKABOVEjINVERTEDBREVEnMACRONaANDACUTEfGRAVEoOGONEKgSTROKEgTILDEaBELOWoZHaREVERSEDiWITHCARO
NmFaWITHDOTABOVEiHOOKeSTROKElGaAMMAeHAcLOTTALAbIbSTOPeUhWITHACUTEfBREVEfCARONeEDILLAgIRCUMFLEXkDOTA
BOVEiHOOKeMACRONgOBLIQUESTROKEnSTROKElHaALFHeENGdWAIRdITHBREVEBELOWkCARONeEDILLAgIRCUMFLEXkDESCENDE
RiIAERESISiOTABOVEfBELOWiHOOKeSTROKElIaNSULARDbFbGbRbSbThOTAdSbWITHACUTEfBREVEfCARONeIRCUMFLEXkDIAE
RESISaANDACUTEqOTABOVEfBELOWgUBLEGRAVElGRAVEfHOOKABOVEjINVERTEDBREVEnMACRONgOGONEKgSTROKEgTILDEaBEL
OWpJaWITHCIRCUMFLEXjROSSEDTAILlSTROKElKaWITHACUTEfCARONeEDILLAhDESCENDERiIAGONALSTROKEnOTBELOWiHOOK
eLINEBELOWjOBLIQUESTROKEnSTROKEaANDDIAGONALSTROKEÂLaJbWITHACUTEfBARcELTeCARONeEDILLAgIRCUMFLEXBELOW
pDOTBELOWaANDMACRONpUBLEBARjHIGHSTROKEkLINEBELOWjMIDDLEDOTdTILDElSMALLLETTERJlTROKElMaIDDLESCOTSSgW
ELSHLLcVlWITHACUTEfDOTABOVEfBELOWiHOOKjNaJbWITHACUTEfCARONeEDILLAgIRCUMFLEXBELOWpDESCENDERiOTABOVEf
BELOWiGRAVEfLEFTHOOKhINEBELOWiONGRIGHTLEGmOBLIQUESTROKEnSMALLLETTERJmTILDEkOaIbLDPOLISHOjMEGAeObPEN
EbOeUbWITHACUTEfBREVEfCARONeIRCUMFLEXaANDACUTEfDOTBELOWiGRAVEfHOOKABOVEjTILDEsDIAERESISaANDMACRONrO
TABOVEaANDMACRONoBELOWgUBLEACUTEfGRAVElGRAVEfHOOKABOVEhRNaANDACUTEfDOTBELOWiGRAVEfHOOKABOVEjTILDEmI
NVERTEDBREVEnLONGSTROKEOVERLAYpOPeMACRONaANDACUTEfGRAVEnIDDLETILDElOGONEKaANDMACRONpSTROKEaANDACUTE
oTILDEaANDACUTEfDIAERESISjMACRONtPaWITHACUTEfDOTABOVEiFLOURISHiHOOKeSQUIRRELTAILlTROKEaTHROUGHDESCE
NDERÁQaWITHDIAGONALSTROKEoSTROKETHROUGHDESCENDERÁRaEVERSEDCWITHDOTiEbHALFHfOPENEmROTUNDAhUMROTUNDAj
WITHACUTEfCARONeEDILLAhDOTABOVEfBELOWaANDMACRONpUBLEGRAVElINVERTEDBREVEnLINEBELOWjOBLIQUESTROKEnSTR
OKEgTAILjSaALTILLOhCHWAdRIPTGgHARPSfIGMOIDShMALLCAPITALIiQWITHHOOKTAILrWITHACUTEaANDDOTABOVEqCARONa
ANDDOTABOVEpEDILLAgIRCUMFLEXjOMMABELOWkDOTABOVEfBELOWaANDDOTABOVEtHOOKeOBLIQUESTROKEnSHORTSTROKEOVE
RLAYrWASHTAILoTaHORNaWITHSTROKEaTHROUGHDESCENDERÄONEFIVEeSIXdTWOgRESILLOhURNEDAaLPHAfHbINSULARGiKbL
bMbTbVgWITHCARONeEDILLAgIRCUMFLEXBELOWoOMMABELOWkDIAGONALSTROKEnOTABOVEfBELOWiHOOKeLINEBELOWjRETROF
LEXHOOKnSTROKEkZcUaBARdPSILONgWITHACUTEfBREVEfCARONeIRCUMFLEXaBELOWpDIAERESISaANDACUTEfCARONfGRAVEf
MACRONjBELOWnOTBELOWgUBLEACUTEfGRAVElGRAVEfHOOKABOVEhRNaANDACUTEfDOTBELOWiGRAVEfHOOKABOVEjTILDEmINV
ERTEDBREVEnMACRONaANDDIAERESISsOGONEKgRINGABOVEjSTROKEgTILDEaANDACUTEiBELOWpVaENDdISIGOTHICZkOLAPUK
AEcOEcUEiWITHDIAGONALSTROKEnOTBELOWiHOOKeTILDEjYcWaWITHACUTEfCIRCUMFLEXkDIAERESISiOTABOVEfBELOWiGRA
VEfHOOKiYNNeXaWITHDIAERESISiOTABOVEnYaOGHdWITHACUTEfCIRCUMFLEXkDIAERESISiOTABOVEfBELOWiGRAVEfHOOKaA
BOVEjLOOPeMACRONgSTROKEgTILDEkZaWITHACUTEfCARONeIRCUMFLEXkDESCENDERiOTABOVEfBELOWiHOOKeLINEBELOWjPA
LATALHOOKlSTROKEfWASHTAILtIGATUREIJcOEqROSSfEPIGRAPHICLETTERARCHAICMiILONGAfNVERTEDMjREVERSEDFbPjSI
DEWAYSIzLETTERAINcLVEOLARCLICKnBIDENTALPERCUSSIVEqLABIALCLICKfPERCUSSIVEsDENTALCLICKlGLOTTALSTOPaWI
THSTROKEvINVERTEDGLOTTALSTOPaWITHCURLeSTROKEÃLATERALCLICKmPHARYNGEALVOICEDFRICATIVEzRETROFLEXCLICKa
WITHRETROFLEXHOOKÃVERSEDESHLOOPhGLOTTALSTOPWITHSTROKEÃSINOLOGICALDOTnMALLCAPITALAaEcBaARREDBhCbDbEa
THcZHdFbGaWITHHOOKjHbIaNVERTEDRjJbKbLaWITHBELTeSTROKElMbNbOaEbPENOeUcPbQbRaEVERSEDNbRiUMcWITHRIGHTL
EGnSbTaURNEDEbGbKbMbRhUbVbWbYbZmTRETCHEDCaWITHCURLsTWOWITHSTROKEnVOICEDLARYNGEALSPIRANTwWYNNeYRiSMA
LLCAPITALLETTERIWITHSTROKElUWITHSTROKEyLETTERAaAbEaWITHACUTEfMACRONlLPHAaWITHRETROFLEXHOOKvNGLICANA
WjObREVERSEDSCHWAnUbVaWITHHORIZONTALBARsWITHACUTEfBREVEaANDACUTEfDOTBELOWiGRAVEfHOOKABOVEjTILDEnCAR
ONeIRCUMFLEXaANDACUTEfDOTBELOWiGRAVEfHOOKABOVEjTILDEsDIAERESISaANDMACRONrOTABOVEaANDMACRONoBELOWgUB
LEGRAVElGRAVEfHOOKABOVEjINVERTEDBREVEnMACRONgOGONEKgRETROFLEXHOOKmIGHTHALFRINGlNGABOVEaANDACUTEnBEL
OWjSTROKEgTILDEjYcBaARREDALPHAfEbOfSELINEESHkETAdLACKLETTEREbOaWITHSTROKEvOTTOMHALFOkROKENLgWITHDOT
ABOVEfBELOWiFLOURISHiHOOKeLINEBELOWjMIDDLETILDElPALATALHOOKlSTROKEgTOPBARlCaHIaWITHLOWLEFTSERIFjRIG
HTRINGsLOSEDINSULARGiOMEGAePENEfREVERSEDOPENEsONcUATRILLOaWITHCOMMArWITHACUTEfBARdCARONeEDILLAaANDA
CUTEoIRCUMFLEXjURLeDOTABOVEiHOOKePALATALHOOKlRETROFLEXHOOKnSTROKElDaBDIGRAPHiELTAdZHDIGRAPHaWITHPAL
ATALHOOKlRETROFLEXHOOKÁOTLESSIbJaWITHSTROKEaANDHOOKxUBLERaWITHCROSSEDTAILqTHORNfWYNNjUMcWITHCARONeE
DILLAgIRCUMFLEXBELOWoURLeDOTABOVEfBELOWiHOOKaANDTAILlLINEBELOWjMIDDLETILDEiHEIGHTLEFTHOOKrPALATALHO
OKlSHORTSTROKEOVERLAYrTROKEgTAILdOPBARkZaDIGRAPHaWITHCURLeRETROFLEXHOOKyWITHCARONlEaGYPTOLOGICALAIN
cLEFqNGaWITHCROSSEDTAILlPALATALHOOKrSHaWITHCURLeDOUBLEBARaANDCURLqPALATALHOOKlRETROFLEXHOOKtTaHcWIT
HACUTEfBREVEfCARONeEDILLAaANDBREVEoIRCUMFLEXaANDACUTEfDOTBELOWiGRAVEfHOOKABOVEjTILDEiBELOWpDIAERESI
SiOTABOVEfBELOWgUBLEGRAVElFLOURISHiGRAVEfHOOKABOVEjINVERTEDBREVEnMACRONaANDACUTEfGRAVEoNOTCHfOGONEK
gRETROFLEXHOOKnSTROKEgTILDEaBELOWoZHaREVERSEDiWITHCARONeURLePALATALHOOKlRETROFLEXHOOKnTAILlFaENGDIG
RAPHaWITHTRILLtWITHDOTABOVEiHOOKeMIDDLETILDElPALATALHOOKlSTROKElGaAMMAeHAcLOTTALAbIbSTOPeUhWITHACUT
EfBREVEfCARONeEDILLAgIRCUMFLEXkDOTABOVEiHOOKeMACRONgOBLIQUESTROKEnPALATALHOOKlSTROKElHaALFHeENGaWIT
HHOOKlVbWITHBREVEBELOWkCARONeEDILLAgIRCUMFLEXkDESCENDERiIAERESISiOTABOVEfBELOWiHOOKeLINEBELOWjPALAT
ALHOOKlSTROKElIaNSULARDbFbGbRbSbTgVERTEDALPHAfOEjOTAaWITHSTROKElIFIEDEiSbWITHACUTEfBREVEfCARONeIRCU
MFLEXkDIAERESISaANDACUTEqOTBELOWgUBLEGRAVElGRAVEfHOOKABOVEjINVERTEDBREVEnMACRONgOGONEKgRETROFLEXHOO
KnSTROKEaANDRETROFLEXHOOKwTILDEaBELOWpJaWITHCARONeIRCUMFLEXjROSSEDTAILlSTROKElKaRAcWITHACUTEfCARONe
EDILLAhDESCENDERiIAGONALSTROKEnOTBELOWiHOOKeLINEBELOWjOBLIQUESTROKEnPALATALHOOKlSTROKEaANDDIAGONALS
TROKEÂLaAMBDAWITHSTROKEpENISFeZHaWITHRETROFLEXHOOKuJbONGSaWITHDIAGONALSTROKEnOTABOVEiHIGHSTROKEsSDI
GRAPHiUMcWITHACUTEfBARcELTaANDPALATALHOOKsCARONeEDILLAgIRCUMFLEXBELOWoURLeDOTBELOWaANDMACRONpUBLEBA
RdMIDDLETILDErFISHHOOKiHIGHSTROKEkINVERTEDLAZYSnLINEBELOWjMIDDLEDOTdRINGeTILDEiHEIGHTLEFTHOOKrPALAT
ALHOOKlRETROFLEXHOOKaANDBELTuSTROKEkZDIGRAPHjMaIDDLESCOTSSgWELSHLLcVlUMcWITHACUTEfCROSSEDTAILlDOTAB
OVEfBELOWiHOOKeMIDDLETILDElPALATALHOOKqNaJbPRECEDEDBYAPOSTROPHEuUMcWITHACUTEfCARONeEDILLAgIRCUMFLEX
BELOWoROSSEDTAILkURLeDESCENDERiOTABOVEfBELOWiGRAVEfLEFTHOOKhINEBELOWiONGRIGHTLEGmMIDDLETILDEiHEIGHT
LEFTHOOKrOBLIQUESTROKEnPALATALHOOKlRETROFLEXHOOKnTILDEkOaIbLDPOLISHOjMEGAeObPENEaWITHRETROFLEXHOOKs
OaEbWITHRETROFLEXHOOKnSTROKEoUbWITHACUTEfBREVEfCARONeIRCUMFLEXaANDACUTEfDOTBELOWiGRAVEfHOOKABOVEjTI
LDEsDIAERESISaANDMACRONrOTABOVEaANDMACRONoBELOWgUBLEACUTEfGRAVElGRAVEfHOOKABOVEhRNaANDACUTEfDOTBELO
WiGRAVEfHOOKABOVEjTILDEmINVERTEDBREVEnLONGSTROKEOVERLAYpOPcWRINGINSIDEnMACRONaANDACUTEfGRAVEoOGONEK
aANDMACRONpRETROFLEXHOOKnSTROKEaANDACUTEoTILDEaANDACUTEfDIAERESISjMACRONtPaHIcWITHACUTEfDOTABOVEiFL
OURISHiHOOKeMIDDLETILDElPALATALHOOKlSQUIRRELTAILlTROKEaTHROUGHDESCENDERÁQaPDIGRAPHiWITHDIAGONALSTRO
KEoHOOKaTAILiSTROKETHROUGHDESCENDERÁRaAMSHORNhEVERSEDCaWITHDOTiEaNGdHALFHfKbOPENEaWITHHOOKeRETROFLE
XHOOKwRWITHFISHHOOKnSCRIPTGoROTUNDAhUMaROTUNDAjWITHACUTEfCARONeEDILLAgROSSEDTAILlDOTABOVEfBELOWaAND
MACRONpUBLEGRAVElFISHHOOKaANDMIDDLETILDElPALATALHOOKwINVERTEDBREVEnLINEBELOWiONGLEGhMIDDLETILDEiHEI
GHTLEFTHOOKrOBLIQUESTROKEmUTHANDLEjPALATALHOOKlSTROKEgTAILjSaAKHAYATgLTILLOhCHWAaWITHHOOKeRETROFLEX
HOOKuRIPTGaWITHCROSSEDTAILqRaWITHRINGoHARPSfIDEWAYSDIAERESIZEDUmOaPENOeWITHSTROKElTURNEDMhUhGMOIDSh
QUATREVERSEDESHpTIRRUPRhWITHACUTEaANDDOTABOVEqCARONaANDDOTABOVEpEDILLAgIRCUMFLEXjOMMABELOWjURLeDOTA
BOVEfBELOWaANDDOTABOVEtHOOKeMIDDLETILDEiHEIGHTLEFTHOOKrOBLIQUESTROKEnPALATALHOOKlSHORTSTROKEOVERLAY
rWASHTAILoTaAILLESSPHIkCDIGRAPHWITHCURLqESHDIGRAPHaWITHPALATALHOOKlRETROFLEXHOOKÁHORNaWITHSTROKEaTH
ROUGHDESCENDERÃWITHSTRIKETHROUGHsONEFIVEeSIXdTWOfPHALFOhRESILLOhSDIGRAPHaWITHRETROFLEXHOOKzUMbRNEDA
aEbLPHAfDELTAfEbGbHaWITHFISHHOOKaANDTAILuIaNSULARGiKbLbMaWITHLONGLEGmOEaWITHHORIZONTALSTROKEqSTROKE
lOPENOaWITHSTROKEpPENEfRaWITHHOOKeLONGLEGaANDRETROFLEXHOOKxMIDDLETILDElPALATALHOOKlTAILjTaWITHCURLj
UIcVbWbYaWITHBELToWITHCARONeEDILLAgIRCUMFLEXBELOWoOMMABELOWjURLeDIAERESISgGONALSTROKEnOTABOVEfBELOW
iHOOKaANDRETROFLEXHOOKuLINEBELOWjMIDDLETILDEiHEIGHTLEFTHOOKrPALATALHOOKlRETROFLEXHOOKnSTROKEkZcUaBA
RaWITHSHORTRIGHTLEGuEbIbMbObPSILONaWITHSTROKEqWITHACUTEfBREVEfCARONeIRCUMFLEXaBELOWpDIAERESISaANDAC
UTEfCARONfGRAVEfMACRONjBELOWnOTBELOWgUBLEACUTEfGRAVElGRAVEfHOOKABOVEhRNaANDACUTEfDOTBELOWiGRAVEfHOO
KABOVEjTILDEmINVERTEDBREVEnLEFTHOOKiMACRONaANDDIAERESISsOGONEKgRETROFLEXHOOKmINGABOVEjSHORTRIGHTLEG
mTROKEgTILDEaANDACUTEiBELOWpVaENDdISIGOTHICZkOLAPUKAEcOEcUEiWITHCURLeDIAGONALSTROKEnOTBELOWiHOOKePA
LATALHOOKlRIGHTHOOKjTILDEjYcWaWITHACUTEfCIRCUMFLEXkDIAERESISiOTABOVEfBELOWiGRAVEfHOOKeRINGABOVEoXaW
ITHDIAERESISiOTABOVEiLONGLEFTLEGaANDLOWRIGHTRINGpWITHSERIFsWRIGHTRINGmPALATALHOOKqYaOGHdWITHACUTEfC
IRCUMFLEXkDIAERESISiOTABOVEfBELOWiGRAVEfHOOKaABOVEjLOOPeMACRONgRINGABOVEjSHORTRIGHTLEGmTROKEgTILDEk
ZaWITHACUTEfCARONeIRCUMFLEXjURLeDESCENDERiOTABOVEfBELOWiHOOKeLINEBELOWjMIDDLETILDElPALATALHOOKlRETR
OFLEXHOOKnSTROKEfWASHTAILtIGATUREFFaIbLcIbLcIJcLONGSTgOEcSToUBSCRIPTSMALLLETTERAbEbHbIbJbKbLbMbNbOb
PbRbSaCHWAfTbUbVbXzBBARSYMBOLkEAFFLUTTERINGINWINDqYGREENiDGEReFTANDLOWERANDRIGHTTRIANGULARTHREEQUAR
TERSBLOCKÊONEEIGHTHBLOCKtRIGHTDOUBLETURNSTILEpTACKdRIANGULARHALFBLOCKyUPPERANDRIGHTTRIANGULARTHREEQ
UARTERSBLOCKÊONEEIGHTHBLOCKuGERBUBBLEiLEBRACKETaWITHDOTsRCLESSTHANBRACKETqROWWITHCIRCLEDPLUSlSMALLC
IRCLEuBARBDOWNRIGHTBARBDOWNHARPOONlUPHARPOONwUPRIGHTBARBDOWNHARPOONlUPHARPOONxLACKLENTICULARBRACKET
rTORTOISESHELLBRACKETzCEILINGgLOSEDENTRYkORNERBRACKETmURLYBRACKETaLOWERHOOKjMIDDLEPIECElUPPERHOOKvD
OTTEDSUBSTITUTIONBRACKETxUBLEANGLEBRACKETmPARENTHESISlQUOTATIONMARKnWIGGLYFENCErFACINGARMENIANETERN
ITYSIGNuFISTeSVASTISIGNaWITHDOTSxISHTAILgVEEIGHTHSBLOCKpLOORfHALFBLACKCIRCLEgSTARhOCKfCIRCLEaWITHDO
TdFOURDOTSiTHREEDOTSiWODOTSrFOLDERgINVERSEMEDIUMSHADEANDRIGHTHALFBLOCKÉMEDIUMSHADElRUNNINGMANmNDEDI
NTERLACEDPENTAGRAMvTELEPHONERECEIVERvLOWPARAPHRASEBRACKETtUGGAGEhMULTIMAPiNORMALFACTORSEMIDIRECTPRO
DUCTÃONEEIGHTHBLOCKlQUARTERBLOCKoUTERJOINjPARENTHESISaEXTENSIONjLOWERHOOKjUPPERHOOKtOINTINGANGLEBRA
CKETmCURVEDANGLEBRACKETsDOUBLEANGLEQUOTATIONMARKyMAGNIFYINGGLASSxRAISEDOMISSIONBRACKETuIGHTARROWaTH
ROUGHSMALLCIRCLEsWITHDOUBLEVERTICALSTROKEuSTROKEgVERTICALSTROKExBLACKARROWkDOUBLEARROWaWITHSTROKEgV
ERTICALSTROKEÃOPENHEADEDARROWpSANSSERIFARROWoTRIANGLEHEADEDARROWtWAVEARROWiHITEARROWpSEMIDIRECTPROD
UCTpVENEIGHTHSBLOCKqHADEDWHITERIGHTWARDSARROWzIDEARCANTICLOCKWISEARROWvWAYSUBRACKEToNGLEQUOTATIONMA
RKsPEECHBUBBLElQUAREBRACKETaEXTENSIONjLOWERCORNERlUPPERCORNERlWITHDOUBLESTROKEmQUILLfSTROKEgTICKINB
OTTOMCORNERmTOPCORNERpUNDERBARySHAPEDBAGDELIMITERsUBSTITUTIONBRACKETtTACKdHIRDWHITERIGHTPOINTINGIND
EXÀOUGHTBUBBLElREEEIGHTHSBLOCKmQUARTERSBLOCKrORIGHTEMBEDDINGjISOLATEhMARKeOVERRIDEmTOISESHELLBRACKE
TtRANSPOSITIONBRACKETsIANGLEBESIDEVERTICALBARtULARONEQUARTERBLOCKzVERTICALBARWITHQUILLlOXLINEpWARDS
ARROWaABOVEALMOSTEQUALTOnREVERSEALMOSTEQUALTOnTILDEOPERATORuSHORTRIGHTWARDSARROWuTILDEOPERATORrNDUP
PERANDLOWERONEEIGHTHBLOCKÄFROMBARaTOBLACKDIAMONDvOVERRIGHTWARDSARROWtTAILdHROUGHLESSTHANiSUBSETgXhO
BARaOVERRIGHTWARDSARROWTOBARÀLACKDIAMONDoWITHDOTTEDSTEMiUBLEVERTICALSTROKEuEQUILATERALARROWHEADuHOO
KeLARGETRIANGLEARROWHEADvOOPeMEDIUMTRIANGLEARROWHEADxNOTCHEDTAILlPLUSBELOWjSMALLEQUILATERALARROWHEA
DuTRIANGLEARROWHEADvTROKEgTAILaWITHDOUBLEVERTICALSTROKEuVERTICALSTROKEvIPDOWNWARDSjUPWARDSkVERTICAL
STROKExBACKTILTEDSHADOWEDWHITEARROWÁLACKARROWfCIRCLEDWHITEARROWvOTTOMSHADEDWHITEARROWwCOMPRESSEDARR
OWpDASHEDARROWkOUBLEARROWaFROMBARhTAILeWITHSTROKEgVERTICALSTROKExDASHARROWpFINGERPOSTARROWoRONTTILT
EDSHADOWEDWHITEARROWÃHANDcRPOONOVERRIGHTWARDSHARPOONvWITHBARBDOWNABOVERIGHTWARDSHARPOONWITHBARBDOWN
ÈBELOWLONGDASHnFROMBARhTOBARfWARDSjUPABOVELEFTWARDSHARPOONWITHBARBDOWNÁONGDASHiRIGHTWARDSHARPOONWIT
HBARBUPÆFROMBARhTOBARfWARDSvEAVYARROWfCOMPRESSEDARROWuLEFTSHADEDWHITEARROWuOPENHEADEDARROWpPAIREDAR
ROWSlUSHINGHANDlQUADRUPLEARROWoRIGHTSHADEDWHITEARROWuOCKETgSANSSERIFARROWnQUAREDARROWjIGGLEARROWnTO
PSHADEDWHITEARROWsRIANGLEARROWHEADjHEADEDARROWaOVERRIGHTWARDSTRIANGLEHEADEDARROWÇTOBARfWITHBOLDSHAF
TjDOUBLEHORIZONTALSTROKEqVERTICALSTROKEuHEAVYSHAFTkLONGTIPDOWNWARDSjUPWARDSoMEDIUMSHAFTlNARROWSHAFT
lVERYHEAVYSHAFTxDASHEDARROWlPAIREDARROWSxPLEARROWfDASHARROWoWOHEADEDARROWaFROMBARhWITHDOUBLEVERTICA
LSTROKEuTAILaWITHDOUBLEVERTICALSTROKEuVERTICALSTROKEvRIANGLEARROWHEADSsVERTICALSTROKExTRIPLEDASHARR
OWyWAVEARROWiHITEARROWaWITHINTRIANGLEARROWHEADËHITECORNERBRACKETmURLYBRACKETmLENTICULARBRACKETrPARE
NTHESISlSQUAREBRACKETnTORTOISESHELLBRACKETyIGGLYFENCEkRITINGHANDnGbMONdOaPARDfPCHACONSONANTSIGNKaAN
GeLbMbNaYINDOgPbRbToDIGITEIGHTfFIVEdOUReNINEeONEdSEVENeIXdTHREEeWOdZEROjLETTERAbBAbLAdCAbHAdDAbDAcZ
AdFAbLAdGAbLAdHAbLAdJAcKAbHAcLAdLAcMAbLAdNAbGAcYAdPAbHAcLAdRAcSAbHAdTAbHAcSAbHAdTAbHAeVAcWAcYAiPUNC
TUATIONCERWAfNYETTHYOOMTAROLpTAROLeSHOOKaCERWAwSIGNNUKTAfRANgUBJOINEDLETTERRAcYArVOWELSIGNAAcEbIbOa
OcUaUpSSTHANABOVEDOUBLELINEEQUALABOVEGREATERTHANÅGREATERTHANABOVEDOUBLELINEEQUALÅLEFTWARDSARROWoSIM
ILARABOVEGREATERTHANqOREQUALnLANTEDEQUALABOVEGREATERTHANABOVESLANTEDEQUAL×NDNOTAPPROXIMATEoSINGLELI
NENOTEQUALTOxBUTNOTEQUALTOeIVALENTTOsCLOSEDBYCURVEaABOVESLANTEDEQUALÄEQUALTOORGREATERTHANuORAPPROXI
MATElEQUALTOeIVALENTTOmGREATERTHANlSLANTEDEQUALTOaWITHDOTABOVEaRIGHTkINSIDEÂVEREQUALTOlSIGNeWITHCIR
CLEINSIDEmDOTdQUESTIONMARKABOVEÁVELSLIDERkFbIBRAdGATUREOPENETORNAMENTtHTBLUEHEARTjCHECKMARKjEIGHTSP
OKEDASTERISKtFIVEPOINTEDBLACKSTARqSPOKEDASTERISKrOURPOINTEDBLACKCUSPeSTARuGREEKCROSSkLEFTTORTOISESH
ELLBRACKETORNAMENTÆNINGaMOODaBUBBLEoRAILdIGHTTORTOISESHELLBRACKETORNAMENTÇSALTIREgHADEeIXSPOKEDASTE
RISKrTHREEPOINTEDBLACKSTARuWELVEPOINTEDBLACKSTARwVERTICALBARlWHITESQUAREoMBUDIGITEIGHTfFIVEdOUReNIN
EeONEdSEVENeIXdTHREEeWOdZEROjEXCLAMATIONMARKpLETTERBAbHAdCAbHAdDAbHAdGAbHAcYANeHAcJAbHAdKAbHAdLAcMA
cNAbGAdPAbHAdRAcSAbHAcSAdTAbHAcRAdWAcYAaNjQUESTIONMARKmSIGNKEMPHRENGjLOOdMUKPHRENGjSAIgMALLLETTERAN
USVARAiKAcLAcMAcNAbGAdPAcRAcTAmUBJOINEDLETTERRAcWAcYArVOWELCARRIERLETTERnSIGNAaIbUcEaEcIbOaOcUmITED
LIABILITYSIGNsNEARASIGNA028Be100102f20Bd31Ce301b2b3b4b5b6b7b8b9AbBbCd10b1b2b3AbBbCc4b5b6b7b8b9c20b1
b2b3b4b5b6b7b8b9c30b1b2b3b4b5b6b7b8b9c40b1b2b3b4b5b6b7b8b9c50b1b2b3b4b5b6b7b8b9c60b1b2b3b4b5b6b7b8b
9c70b1d400VASe1VASe2VASe3VASe4VASe5VASe6VASe7VASe8VASe9VASf10VASe1VASe2VASe3VASe4VASe5VASe6VASe7VAS
e8VASg501b2b3b4b5b6b8b9c10b1b2b3b5b6c20b1b3b4b5b6b7b8b9c30b1b2b4b5b6b7b8b9c40b1b2b5b7b8b9c50b1b2b3b
4b5b6b7b9c63b4b5b6b8b9c70b1b2b3b4b5b6b7b8b9c80b1b2b3b4b5b6b7b8b9c91b2b4b5b6b8d600b1b2b3b4b6b8b9c10b
1b2b3b4b5b6b7b8b9c20b1b2b3b4b6b7b8b9c34b7b8c40b2b3b4b5b6b8b9c51b2b3b4b5b6b7b8b9c60b1b2b3b4d701Ac2Bc
3Dc4Ec5Fc6Hc7Jc8Kc92L2d3L3d4L4d6L6dLd10Wc1Xc2Yc3OMEGAg4ABBe5BBd7DDe26EYYYg32JEf800b1b2b3b4b5b6b7dB0
01b2b3b4b5b6b7b8b9c10b1b3b6b7c20b1aFbMc2aFbMc3aMc4b6b7b8b9c30b1b4b7b8b9c40b1b4b5b6b7b8b9c50b1b3b4b5
b6b7b8b9c60b1b5b6b7b9c70b3b4b6b7b8b9c80b1b2b5b6b7d118c20b2b3c31AbBd64c71c80b8c91kBIDEOGRAMB100MANe2
WOMANg4DEERf5EQUIDfFMAREfMSTALLIONk6FEWEeMRAMf7FSHEGOATiMHEGOATi8FSOWeMBOARg9FCOWeMBULLh20WHEATg1BA
RLEYh2OLIVEg3SPICEg5CYPERUSj30OILe1WINEf2c40BRONZEh1GOLDf2b5WOOLf6c50b1HORNf2b3b4b7b8b9CLOTHh60b1b2
GARMENTi3ARMOURh4b5b6b7b8b9c70b1b2b3MONTHg4b6TREEf7b8b9c80b1b2b3b4b5b9c90b1HELMETj220FOOTSTOOLk5BAT
HTUBj30SPEARg1ARROWg2b3SWORDg4b6c40WHEELEDCHARIOTp1CHARIOTi2CHARIOTFRAMEn3WHEELg5b6b8b9c51b2b3b4DAR
Tf5b6b7b8b9eVESSELB155d200b1b2b3b4b5b6b7b8b9c10b1b2b3b4b5b6b7b8b9c21b2b6b7b8b9c50d305sMONOGRAMB127K
APOf8KANAKOi33AREPAg5MERIg56TURO2i247DIPTErSYLLABLEB001DAd2ROd3PAd4TEd5TOd6NAd7DId8Ac9SEe10Uc1POd2S
Od3MEd4DOd5MOd6QAd7ZAe20ZOd1QId3MUd4NEd5A2d6RUd7REd8Ic9PU2f30NId1SAd2QOd3RA3e6JOd7TId8Ec9PIe40WId1S
Id2WOd3A3d4KEd5DEd6JEd8NWAf50PUd1DUd2NOd3RId4WAd5NUd7JAd8SUd9TAe60RAd1Oc2PTEe5JUd6TA2e7KId8RO2e9TUe
70KOd1DWEe2PEd3MId4ZEd5WEd6RA2e7KAd8QEe80MAd1KUd5AUd7TWEf90DWOe1TWOnMBOLB018b9c22c34c47b9c56c63b4c7
9c82b3b6b9nFEEDeINTEGRATIONNOTINCLUDINGTHEPOLEtWITHRECTANGULARPATHAROUNDPOLEzSEMICIRCULARPATHAROUND
POLEÏSEPARATORjTABULATIONaSEToKEDPAPERCLIPSmSYMBOLiONFACEgPSaTICKgRASIGNgSULETTERAaEcBAcCAbHAdDAbZA
dEaUcFAcGAbHAdHAbHAdIbJAcKAbHAdLAcMAcNAbGAdOaEcPAbHAdSAbHAdTAbHAcONEMYABOcCYAdJEUdNAcTIfNAPOhSAbHAe
UaEbHcWAcXAcYAbHAdZAbHAjPUNCTUATIONCOMMAfFULLSTOPvVRETOURNOISSIGNpZARDfLAMAeOBSTERfCKaINGSHIFTONEdZ
EROmWITHINKPENmGICALANDaWITHDOTABOVEgUBLEOVERBARhUNDERBARoHORIZONTALDASHoMIDDLESTEMkUNDERBARpORaOVE
RLAPPINGLOGICALANDvWITHDOTABOVEgUBLEOVERBARhUNDERBARoHORIZONTALDASHoMIDDLESTEMvLLIPOPgNGDASHFROMLEF
TMEMBEROFDOUBLEVERTICALÇIVISIONhRUMeLEFTRIGHTARROWfDOUBLEARROWqTACKeWARDSARROWaFROMBARmDOUBLEARROWa
FROMBARsSQUIGGLEARROWwRIGHTTACKeWARDSARROWaFROMBARmDOUBLEARROWaFROMBARsSQUIGGLEARROWzTIONBOTTLEjOFF
ORTUNEjUSdUDLYCRYINGFACEoVEHOTELfLETTERiWASTERISKiBATTERYgRIGHTNESSSYMBOLqDOUBLEPRIMEQUOTATIONMARKy
ERBLADESCISSORSnFIVEEIGHTHSBLOCKqHALFBLOCKfCIRCLEgINVERSEWHITECIRCLEsMEDIUMSHADEpLEFTBALLPOINTPENlL
OCKDIAGONALLOWERMIDDLELEFTTOLOWERCENTREgRIGHTÁUPPERCENTRETOLOWERMIDDLERIGHTlRIGHTkUPPERMIDDLERIGHTy
LEFTTOLOWERCENTREgMIDDLERIGHTqUPPERMIDDLERIGHTwMIDDLELEFTTOLOWERCENTREgMIDDLERIGHTlRIGHTÎCRAYONgFOU
NTAINPENlPAINTBRUSHjENCILgQUADRANTCIRCULARARCtSEMICIRCULARANTICLOCKWISEARROWÄTRIANGLEcULARMEDIUMSHA
DEzONEEIGHTHBLOCKlQUARTERBLOCKpRIGHTBLOCKDIAGONALLOWERCENTRETOLOWERMIDDLERIGHTqUPPERMIDDLERIGHTlRIG
HTsLEFTTOLOWERMIDDLERIGHTqUPPERCENTREgMIDDLERIGHTwMIDDLELEFTTOUPPERCENTREgMIDDLERIGHTlRIGHTÁUPPERMI
DDLELEFTTOUPPERCENTREgRIGHTÎCORNERWITHDOTnDROPSHADOWEDWHITESQUARExPENCILgQUADRANTCIRCULARARCtSEMICI
RCULARCLOCKWISEARROWzHADOWEDWHITECIRCLEgSQUAREtTRIANGLEcULARMEDIUMSHADEÀSEVENEIGHTHSBLOCKrTHREEEIGH
THSBLOCKmQUARTERSBLOCKrRIANGULARONEQUARTERBLOCKÁKAVYKAaWITHDOTnLINEfZENGEaDIVIDEDBYHORIZONTALRULEÃR
EbIbMbOcUGGAGEfNARECLIPSEjGSeYCIANLETTERAaNcBaHcDbEaNcGbHbIbJbKaKcLbMaMcNaNcPbQbRbSbTaHbTcUbWbXbZlD
IANLETTERAaNcBbCbDbEaNcFbGbIbKbLaYcMbNaNcObQbRbSaScTaTcUbVbYhTRIANGULARMARKsINGFACEjMACRONeGEbICWAN
DgNETeHAJANIABBREVIATIONSIGNqLETTERAbBAbHAdCAbHAdDAbDAbHAdHAdEbGAbHAdHAcIbJAbHAdKAbHAdLAcMAcNAbNAcY
AdObPAbHAdRAbRAdSAcTAbHAcTAbHAeUbVAhIGATURESHRImSECTIONMARKkIGNNUKTAoJONGTILEAUTUMNgBACKcMBOOgCHRYS
ANTHEMUMnEASTWINDhIGHTOFBAMBOOShCHARACTERSjIRCLESoFIVEOFBAMBOOShCHARACTERSjIRCLESmOUROFBAMBOOShCHAR
ACTERSjIRCLESnGREENDRAGONlJOKERfNINEOFBAMBOOShCHARACTERSjIRCLESmORTHWINDjONEOFBAMBOOShCHARACTERSjIR
CLESlRCHIDgPLUMeREDDRAGONjSEVENOFBAMBOOShCHARACTERSjIRCLESnIXOFBAMBOOShCHARACTERSjIRCLESlOUTHWINDiP
RINGfUMMERgTHREEOFBAMBOOShCHARACTERSjIRCLESnWOOFBAMBOOShCHARACTERSjIRCLESmWESTWINDhHITEDRAGONkINTER
pKASARANGKAfENDOFSECTIONmLETTERAbBAcCAcDAcGAcJAcKAcLAcMAcNAbGAcYAdPAcRAcSAcTAcVAcYAiPASSIMBANGkVOWE
LSIGNEbIbObUoEMAKEgLAYALAMAULENGTHMARKmDATEMARKhIGITEIGHTfFIVEdOUReNINEeONEdSEVENeIXdTHREEeWOdZEROj
FRACTIONONEEIGHTHgFIFTHeORTIETHiHALFeONEHUNDREDANDSIXTIETHvQUARTERhSIXTEENTHjTENTHeWENTIETHmTHREEEI
GHTIETHSkQUARTERSiSIXTEENTHSkTWENTIETHSxLETTERAaAbIbRCHAICIIiUcBAbHAdCAbHAbILLUKbLaLaLdMbNaNcRRcYhD
AbDAbHAdHAcOTREPHhEaEcGAbHAdHAcIaIcJAbHAdKAbHAdLAbLAbLAeMAcNAbGAcNAbNAdYAdOaOcPAbHAdRAbRAdSAbHAcSAd
TAbHAcTAbHAcTAeUaUcVAbEDICANUSVARAmOCALICLaLcRaRjYAiNUMBERONEHUNDREDhTHOUSANDlTENjSIGNANUSVARAhVAGR
AHAiCANDRABINDUkIRCULARVIRAMAnOMBININGANUSVARAABOVEwPARAeVERTICALBARVIRAMAqIRAMAeSARGAlVOWELSIGNAAb
IbUcEaEcIaIcOaOcUaUcVOCALICLaLcRaRyEANDFEMALESIGNnSIGNeWITHSTROKEANDMALEANDFEMALESIGNuSIGNpTESECROS
SkMMOTHfNaANDWOMANHOLDINGHANDStTSIGNgDAICAFFRICATIONMARKpGEMINATIONMARKoLETTERABbDbGbHbINcKaSAdLbMb
NbPbQbRbSaHbZcTaTcZcDUSHENNAiHALQAfINbTcKADdUSHENNAnPUNCTUATIONlVOCALIZATIONMARKsNCINGhGOcICHAEANAB
BREVIATIONMARKABOVEfBELOWvLETTERAAYINeLEPHeYINeBETHdHETHfDALETHfHAMEDHhFEcGHIMELfIMELfHEaTHeJAYINeH
AYINgKAPHdHAPHfLAMEDHgMEMdNUNdPEcQHOPHeOPHeRESHeSADHEdMEKHfHINdSHINfTAWcETHdHAMEDHhWAWdXAPHdOPHeYOD
HeZAYINeHAYINmNUMBERFIVEeONEaHUNDREDkTENcWENTYmPUNCTUATIONDOTaWITHINDOTkUBLEDOTWITHINDOTsFLEURONhLI
NEFILLERkSTAReTWODOTSsSIGNUDmNBUSINESSSUITLEVITATINGwTUXEDOiSSHOEfTELPIECECLOCKnUALWHEELCHAIRnWITHG
UAPIMAOiTURBANlPLELEAFgSYMBOLFORLIGHTHOUSEuRACASeCHENHEADMARKiLETTER-AcAbBAcCAbHAdDAbZAdGAcHAcJAcKA
bHAdLAcMAcNAbGAcYAdPAbHAdRAcSAbHAdTAbHAcSAbHAeWAcYAcZAbHAjMARKSHADiSIGNANUSVARAiCANDRABINDUoUBJOINE
DLETTERAbBAcCAbHAdDAbZAdGAcHAcJAcKAbHAdLAcMAcNAbGAcYAdPAbHAdRAcSAbHAdTAbHAcSAbHAeWAcYAcZAbHAsVOWELS
IGNAAcEbIbObUoRIAGESYMBOLlTIALARTSUNIFORMqSARAMGONDIDIGITEIGHTfFIVEdOUReNINEeONEdSEVENeIXdTHREEeWOd
ZEROjLETTERAaAbIbUcBAbHAdCAbHAdDAbDAbHAdHAdEbGAbHAdHAcIaIcJAbHAcNYAeKAbHAcSSAeLAbLAdMAcNAbGAcNAcYAd
ObPAbHAdRAcSAbHAcSAdTAbHAcRAcTAbHAeUaUcVAcYAiRAKARAfEPHAfSIGNANUSVARAiCANDRAgHALANTAhNUKTAfVISARGAl
VIRAMAfOWELSIGNAAbIbUcEbIaIcObUaUcVOCALICRÀCULINEORDINALINDICATORwKWORKSYMBOLlUMARKgTEDRINKgHEMATIC
ALBOLDCAPITALAaLPHAfBaETAeCaHIdDaELTAeIGAMMAhEaPSILONgTAdFbGaAMMAfHbIaOTAeJbKaAPPAfLaAMDAfMaUcNaUcO
aMEGAdICRONhPaHIcIbSIdQbRaHOdSaIGMAfTaAUcHETAaSYMBOLlUaPSILONhVbWbXaIcYbZaETAlDIGITEIGHTfFIVEdOUReN
INEeONEdSEVENeIXdTHREEeWOdZEROjEPSILONSYMBOLnFRAKTURCAPITALAbBbCbDbEbFbGbHbIbJbKbLbMbNbObPbQbRbSbTb
UbVbWbXbYbZiSMALLAbBbCbDbEbFbGbHbIbJbKbLbMbNbObPbQbRbSbTbUbVbWbXbYbZnITALICCAPITALAaLPHAfBaETAeCaHI
dDaELTAfEaPSILONgTAdFbGaAMMAfHbIaOTAeJbKaAPPAfLaAMDAfMaUcNaUcOaMEGAdICRONhPaHIcIbSIdQbRaHOdSaIGMAfT
aAUcHETAaSYMBOLlUaPSILONhVbWbXaIcYbZaETAlEPSILONSYMBOLnKAPPASYMBOLlNABLAfPARTIALDIFFERENTIALsHISYMB
OLiISYMBOLiRHOSYMBOLjSMALLAaLPHAfBaETAeCaHIdDaELTAfEaPSILONgTAdFaINALSIGMAkGaAMMAfHbIaOTAeJbKaAPPAf
LaAMDAfMaUcNaUcOaMEGAdICRONhPaHIcIbSIdQbRaHOdSaIGMAfTaAUcHETAfUaPSILONhVbWbXaIcYbZaETAjTHETASYMBOLr
KAPPASYMBOLlNABLAfPARTIALDIFFERENTIALsHISYMBOLiISYMBOLiRHOSYMBOLjSCRIPTCAPITALAbBbCbDbEbFbGbHbIbJbK
bLbMbNbObPbQbRbSbTbUbVbWbXbYbZiSMALLAbBbCbDbEbFbGbHbIbJbKbLbMbNbObPbQbRbSbTbUbVbWbXbYbZlMALLAaLPHAf
BaETAeCaHIdDaELTAeIGAMMAhEaPSILONgTAdFaINALSIGMAkGaAMMAfHbIaOTAeJbKaAPPAfLaAMDAfMaUcNaUcOaMEGAdICRO
NhPaHIcIbSIdQbRaHOdSaIGMAfTaAUcHETAfUaPSILONhVbWbXaIcYbZaETAjTHETASYMBOLpDOUBLESTRUCKCAPITALAbBbDbE
bFbGbIbJbKbLbMbObSbTbUbVbWbXbYiDIGITEIGHTfFIVEdOUReNINEeONEdSEVENeIXdTHREEeWOdZEROjSMALLAbBbCbDbEbF
bGbHbIbJbKbLbMbNbObPbQbRbSbTbUbVbWbXbYbZsFALLINGDIAGONALoRAKTURCAPITALAbBbDbEbFbGbJbKbLbMbNbObPbQbS
bTbUbVbWbXbYiSMALLAbBbCbDbEbFbGbHbIbJbKbLbMbNbObPbQbRbSbTbUbVbWbXbYbZnITALICCAPITALAaLPHAfBaETAeCaH
IdDaELTAfEaPSILONgTAdFbGaAMMAfHbIaOTAeJbKaAPPAfLaAMDAfMaUcNaUcOaMEGAdICRONhPaHIcIbSIdQbRaHOdSaIGMAf
TaAUcHETAaSYMBOLlUaPSILONhVbWbXaIcYbZaETAlEPSILONSYMBOLnKAPPASYMBOLlNABLAfPARTIALDIFFERENTIALsHISYM
BOLiISYMBOLiRHOSYMBOLjSMALLAaLPHAfBaETAeCaHIdDaELTAeOTLESSIbJiEaPSILONgTAdFaINALSIGMAkGaAMMAfIaOTAe
JbKaAPPAfLaAMDAfMaUcNaUcOaMEGAdICRONhPaHIcIbSIdQbRaHOdSaIGMAfTaAUcHETAfUaPSILONhVbWbXaIcYbZaETAjTHE
TASYMBOLrLEFTANGLEBRACKETmDOUBLEANGLEBRACKETsFLATTENEDPARENTHESISuWHITESQUAREBRACKETnTORTOISESHELLB
RACKETÃMONOSPACECAPITALAbBbCbDbEbFbGbHbIbJbKbLbMbNbObPbQbRbSbTbUbVbWbXbYbZiDIGITEIGHTfFIVEdOUReNINE
eONEdSEVENeIXdTHREEeWOdZEROjSMALLAbBbCbDbEbFbGbHbIbJbKbLbMbNbObPbQbRbSbTbUbVbWbXbYbZpRIGHTANGLEBRAC
KETmDOUBLEANGLEBRACKETsFLATTENEDPARENTHESISuWHITESQUAREBRACKETnTORTOISESHELLBRACKETÂSINGDIAGONALoSA
NSSERIFBOLDCAPITALAaLPHAfBaETAeCaHIdDaELTAfEaPSILONgTAdFbGaAMMAfHbIaOTAeJbKaAPPAfLaAMDAfMaUcNaUcOaM
EGAdICRONhPaHIcIbSIdQbRaHOdSaIGMAfTaAUcHETAaSYMBOLlUaPSILONhVbWbXaIcYbZaETAlDIGITEIGHTfFIVEdOUReNIN
EeONEdSEVENeIXdTHREEeWOdZEROjEPSILONSYMBOLnITALICCAPITALAaLPHAfBaETAeCaHIdDaELTAfEaPSILONgTAdFbGaAM
MAfHbIaOTAeJbKaAPPAfLaAMDAfMaUcNaUcOaMEGAdICRONhPaHIcIbSIdQbRaHOdSaIGMAfTaAUcHETAaSYMBOLlUaPSILONhV
bWbXaIcYbZaETAlEPSILONSYMBOLnKAPPASYMBOLlNABLAfPARTIALDIFFERENTIALsHISYMBOLiISYMBOLiRHOSYMBOLjSMALL
AaLPHAfBaETAeCaHIdDaELTAfEaPSILONgTAdFaINALSIGMAkGaAMMAfHbIaOTAeJbKaAPPAfLaAMDAfMaUcNaUcOaMEGAdICRO
NhPaHIcIbSIdQbRaHOdSaIGMAfTaAUcHETAfUaPSILONhVbWbXaIcYbZaETAjTHETASYMBOLrKAPPASYMBOLlNABLAfPARTIALD
IFFERENTIALsHISYMBOLiISYMBOLiRHOSYMBOLjSMALLAaLPHAfBaETAeCaHIdDaELTAfEaPSILONgTAdFaINALSIGMAkGaAMMA
fHbIaOTAeJbKaAPPAfLaAMDAfMaUcNaUcOaMEGAdICRONhPaHIcIbSIdQbRaHOdSaIGMAfTaAUcHETAfUaPSILONhVbWbXaIcYb
ZaETAjTHETASYMBOLpCAPITALAbBbCbDbEbFbGbHbIbJbKbLbMbNbObPbQbRbSbTbUbVbWbXbYbZiDIGITEIGHTfFIVEdOUReNI
NEeONEdSEVENeIXdTHREEeWOdZEROjITALICCAPITALAbBbCbDbEbFbGbHbIbJbKbLbMbNbObPbQbRbSbTbUbVbWbXbYbZiSMAL
LAbBbCbDbEbFbGbHbIbJbKbLbMbNbObPbQbRbSbTbUbVbWbXbYbZmSMALLAbBbCbDbEbFbGbHbIbJbKbLbMbNbObPbQbRbSbTbU
bVbWbXbYbZoCRIPTCAPITALAbCbDbGbJbKbNbObPbQbSbTbUbVbWbXbYbZiSMALLAbBbCbDbFbHbIbJbKbLbMbNbPbQbRbSbTbU
bVbWbXbYbZwXIMIZEgYANNUMERALEIGHTaEENhLEVENgFIFTEENfVEdOURaTEENiNINEaTEENiONEdSEVENaTEENiIXaTEENhTE
NcHIRTEENgREEeWELVEeOdZEROpEASUREDANGLEaOPENINGLEFTlWITHOPENARMENDINGINARROWPOINTINGDOWNANDLEFTeRIG
HTmLEFTANDDOWNeUPjRIGHTANDDOWNeUPkUPANDLEFTeRIGHTÕBYcRIGHTANGLEWITHDOTwTONBONEiCHANICALARMdLEGlDEFA
IDRINCAPITALLETTERAaIbTIUeBbCbDbEbFbGbHaPcIbJbKaPcLbMbNaGbYcOaEcPbQbRbSbTbUbVbWbXbYaUcZnOMMAfDIGITE
IGHTfFIVEdOUReNINEeONEaALTERNATEFORMqSEVENeIXdTHREEaALTERNATEFORMrWOaALTERNATEFORMqZEROjEXCLAMATION
OHnFULLSTOPiNUMBEREIGHTEENhLEVENgFIFTEENgOURTEENiNINETEENiSEVENTEENiIXTEENhTENcHIRTEENhWELVEmSMALLL
ETTERAaIbTIUeBbCbDbEbFbGbHaPcIbJbKaPcLbMbNaGbYcOaEcPbQbRbSbTbUbVbWbXbYaUcZlYMBOLAIVAsIEVALCOMMAfEXC
LAMATIONMARKpQUESTIONMARKqUMBLACKCIRCLEkOLDWHITECIRCLEpEIGHTPOINTEDBLACKSTARqSPOKEDASTERISKtFIVESPO
KEDASTERISKrLATTENEDLEFTPARENTHESISORNAMENTxRIGHTPARENTHESISORNAMENTÆOURPOINTEDBLACKSTARjPINWHEELST
ARxGREEKCROSSkLEFTCURLYBRACKETORNAMENTuPARENTHESISORNAMENTsOINTINGANGLEBRACKETORNAMENTÆMATHEMATICAL
SPACErRIGHTCURLYBRACKETORNAMENTuPARENTHESISORNAMENTsOINTINGANGLEBRACKETORNAMENTÇSALTIREgHADEeIXPOIN
TEDBLACKSTARqSPOKEDASTERISKqMALLWHITECIRCLEqTHREEPOINTEDBLACKSTARjPINWHEELSTARyVERTICALBARlWHITECIR
CLEgSQUAREpETEIMAYEKAHANGKHUDAMkNJIdPUNIYEKiCHEIKHANcEIiDIGITEIGHTfFIVEdOUReNINEeONEdSEVENeIXdTHREE
eWOdZEROjLETTERATIYAfBAbHAMeCHAbILeDDAbHAdHOUdILdEbGHOUdOKdHUKdIaLONSUMhJHAMdILdKHOUdOKaLONSUMjLAIa
LONSUMjMITaLONSUMjNAaLONSUMhGOUaLONSUMjNAcYAdObPAaLONSUMhHAMeRAIdSAMcHAcSAdTHOUdILaLONSUMiTAbHAeUNc
WAIdYANGjUMIYEKhSYLLABLEREPETITIONMARKwVIRAMAfOWELSIGNAAIbUcNAPdUcCHEINAPhIIbNAPeNUNGeONAPeSOUNAPgU
NAPdUcVISARGAhYENAPoWORDREPETITIONMARKÁLONcTINGFACEjMOcNDEKIKAKUICOMBININGNUMBERHUNDREDSbTHOUSANDSq
MILLIONSiTEENSdNSbTHOUSANDSlHOUSANDSyDIGITEIGHTfFIVEdOUReNINEeONEdSEVENeIXdTHREEeWOiSYLLABLEM001KId
2KAd3KUd4WId5WAd6WUd7MINe8MANe9MUNf10BId1BAd2BUd3Ic4Ac5Uc6DId7DAd8DUd9SIe20SAd1SUd2TId3TAd4TUd5LId6
LAd7LUd8JId9JAe30JUd1YId2YAd3YUd4FId5FAd6FUd7NINe8NANe9NUNf40HEEe1HAd2HOOe3NGGAf4KPEEf5WOd6HUANf7MB
EEf8KOd9WVAf50PUd1PEd2HENe3HINe4LOOe5TEd6GBAe7NGONf8NYANf9MENf60NYONf1WVIe2MBAe3JOd4NDOe5KEEe6POd7N
DOOf8PId9TOe70GBOe1GBOOf2MBEe3LEd4KPUe5FEd6KOOe7VOd8FEEe9SOe80YEd1PEEe2NGGUf3HEEIf4LEEe5VEd6LONGNGG
Ej7HUNe8FOd9DEEf90NGGIf1TEEe2KPAe3GBEEf4MONe5KEd6HEd7BEd8NYENf9PAf100Ec1FANe2POOe3BOOe4TOOe5LONGMBO
Oj6LONGNGGOOk7GBEe8KPEe9YEEf10LONGLEh1GAd2KPOOf3JEd4WOOe5NGGEEg6SEd7NENe8WEd9NDEf20NGGOf1YOd2MBUe3N
DIe4GBIe5NDUe6WEEe7NGGUAg8HOOUf9NDAf30HANe1INd2KPIe3FOOe4NJOOf5INd6SOOe7EId8BOd9WVEf40HOd1YOOe2LONG
MBOi3WEIe4VOOe5MBIe6NGGEf7Oc8GBUe9NJEEg50BEEe1VUd2NJAe3LOd4MUANf5GId6NGGOOg7JEEe8KPOe9NGGAAh60JOOe1
LONGMBEi2SEEe3EEd4NYINf5OOd6GUEIf7GUANf8GUd9NONf70NYUNf1RAd2MBOOf3VEEe4MBOe5LONGJOh6HId7NGUANg8ENd9
KUAf80DOOe1DOd2VId3LONGNGGOj4NGENf5VAd6HUd7MBUUf8MBEEf9MUENg90GEEe1NDEEf2NJUe3HONe4WUIe5ANd6SIAe7FU
AyORAHWITHNINEBRANCHESuSSYMBOLiRCURYeOITICCURSIVEFRACTIONEIGHTTWELFTHSmLEVENTWELFTHSoFIVETWELFTHSlO
URTWELFTHSmNINETWELFTHSmONEHALFeTWELFTHkSEVENTWELFTHSmIXTWELFTHSlTENTWELFTHSkHREETWELFTHSmWOTWELFTH
StLETTERAaRCHAICSAjBAcDAcEbHHAdIbKAbHAdLAcMAcNAbEcObPAcQAcRAcSAbEcTAbEbOcWAcYAhOGOGRAMIMNdRMTlNUMBE
REIGHTaHUNDREDaTHOUSANDpTHOUSANDiYTHOUSANDoFIFTYaTHOUSANDlVEaHUNDREDaTHOUSANDpTHOUSANDlORTYaTHOUSAN
DlURaHUNDREDaTHOUSANDpTHOUSANDmNINEaHUNDREDaTHOUSANDpTHOUSANDhYTHOUSANDoONEaHUNDREDaTHOUSANDpTHOUSA
NDlSEVENaHUNDREDaTHOUSANDpTHOUSANDhYaTHOUSANDoIXaHUNDREDaTHOUSANDpTHOUSANDhYaTHOUSANDnTENaTHOUSANDk
HIRTYaTHOUSANDmREEaHUNDREDaTHOUSANDpTHOUSANDmWENTYaTHOUSANDmOaHUNDREDaTHOUSANDpTHOUSANDyHIEROGLYPHI
CLETTERAbBAa2dDAcEbHHAdIbKAbHAdLAcMAcNAa2cEa2dObPAcQAcRAa2dSAa2cEcTAa2cEa2cOcWAcYAiSYMBOLVIDJa2ÂPER
SONhSSAGEWAITINGmTRICALBREVEfLONGOVERSHORTfTWOSHORTSrPENTASEMEjSHORTOVERLONGnTETRASEMEiRISEMEgWOSHO
RTSJOINEDgOVERLONGvOeIAOLETTERAHbRCHAICMAcNAbGAdZZAkBAbRIdDAbDAcLHAbYAeZAbHAcYIcZAeFAcGAbHAbHAeHAbH
AdKAcLAbHAbYAdYAdMAbHAdNAaSALIZATIONlGAbHAdHAcNAbHAdYAbHAePAbLAdQAbGAdREFORMEDTONE1b2b4b5b6b8eSHAlT
EdSAbHAcSAcYIdTAbEbLHAbYAeONE2b3b4b5b6b7b8eSAbEbHAcSAdTAdVAbFAdWAcXAcYIDZHAeKAcNNAdPAcTAbSAbHAdTAfZ
AbHAcSAbHAdZAbSAbYAdYAkSIGNASPIRATIONkCONSONANTMODIFIERBARuREFORMEDASPIRATIONkVOICINGtTONEABOVEfBEL
OWfRIGHTfTOPRIGHTmVOWELSIGNAaAbEaEcHHcIbNaGcUcEaAbIbNaGcRaRdIaAaNaGdEbGbIbNGcOaNGdUcNaGcOaERbYcGbOb
UcROUNDEDERaRkUaAaNaGdEIcIbNGcOGcUcVWcWaOcYaIbUIoCRDASHSYMBOLkOBEcNUSSYMBOLjPHONEfSCOPEeIGNhDDLEDOT
dTHIRDWHITERIGHTPOINTINGINDEXÅLINEHORIZONTALELLIPSISxLITARYHELMETgMEDALkKYWAYfLSIGNgNIBUSdDISCeMIZE
fUSORPLUSSIGNkSIGNaINTRIANGLEkWITHCOMMAABOVEkDOTBELOWiFALLINGDOTSlRISINGDOTSsTILDEhYcRRORaBALLjMSPd
OBILEPHONEaOFFdWITHRIGHTWARDSARROWATLEFTÈDELScRNPENTATHLONnIABBREVIATIONSIGNqDANDAeIGITEIGHTfFIVEdO
UReNINEeONEdSEVENeIXdTHREEeWOdZEROiOUBLEDANDAlFIERBREVEWITHINVERTEDBREVEwLETTERACUTEACCENTkLVEOLARC
LICKmPOSTROPHEkBEGINHIGHTONEiLOWTONElILABIALCLICKnCAPITALAaEcBaARREDBhCbDbEbFbGbHaWITHSTROKElIbJbKb
LbMbNbOaUcPbQbRaEVERSEDEbNjTbUbVbWhENTREDLEFTHALFRINGmRIGHTHALFRINGtHINESETONEYANGPINGeQUcRUcSHANGi
INPINGeQUcRUcSHANGsIRCUMFLEXACCENTpOLONeROSSACCENTkYRILLICENcHARDSIGNiSMALLAbBARREDOgEbYELORUSSIANU
KRAINIANIwCHEdDEbZZEeEaFbLbMbRbSaWITHDESCENDERpGHEdHAcIaEcJEcKAcObPALOCHKAhEcSCHWAeHAcTRAIGHTUaWITH
STROKEtTEbSEdUbVEcYERUaWITHBACKYERoUcZEbHEhOFTSIGNqDENTALCLICKkOTHORIZONTALBARnSLASHfVERTICALBARmUB
LEAPOSTROPHEkPRIMEjWNARROWHEADjTACKiENDHIGHTONEiLOWTONEjXTRAHIGHDOTTEDLEFTSTEMTONEBARpTONEBARnLEFTS
TEMTONEBARpTONEBARlLOWDOTTEDLEFTSTEMTONEBARpTONEBARnLEFTSTEMTONEBARpTONEBARpGEORGIANNARkLOTTALSTOPa
WITHSTROKEuRAVEACCENTlHALFTRIANGULARCOLONsIGHDOTTEDLEFTSTEMTONEBARpTONEBARnLEFTSTEMTONEBARpTONEBARl
LATERALCLICKlEFTARROWHEADjHALFRINGiTACKhOWACUTEACCENTlCIRCUMFLEXACCENTqDOTTEDLEFTSTEMTONEBARpTONEBA
RlWNARROWHEADnERRIGHTCORNERANGLEsGRAVEACCENTlINVERTEDEXCLAMATIONMARKxLEFTARROWaHEADjSTEMTONEBARpMAC
RONgRIGHTARROWHEADmNGeTILDEeONEBARhUPARROWHEADlVERTICALLINEpMACRONfIDDLEDOUBLEACUTEACCENTlGRAVEACCE
NTrGRAVEACCENTnOTTEDLEFTSTEMTONEBARpTONEBARnLEFTSTEMTONEBARpTONEBARiNUSSIGNjOPENSHELFjPLUSSIGNhRIME
fRAISEDCOLONfDOWNARROWjEXCLAMATIONMARKpINVERTEDEXCLAMATIONMARKxUPARROWmETROFLEXCLICKWITHRETROFLEXHO
OKÃVERSEDCOMMAfGLOTTALSTOPaWITHSTROKEÂHOTICHOOKjIGHTARROWHEADjHALFRINGiTACKjSHELFdORTEQUALSSIGNoMAL
LAaEbINcLPHAfBaARREDOgETAdOTTOMHALFOkWITHHOOKjCaAPITALAAcBbGaWITHHOOKjHbIaNVERTEDRiWITHSTROKElLaWIT
HBELTjNbOEcRbUbYhHIcLOSEDOMEGAfREVERSEDOPENEsWITHCURLjDaELTAdZHDIGRAPHkOTLESSJWITHSTROKEaANDHOOKyWI
THHOOKaANDTAILlTAILiZDIGRAPHaWITHCURLeRETROFLEXHOOKÀEaNGcSHcTHcZHdFaENGDIGRAPHlGaAMMAeREEKGAMMAfPHI
hWITHHOOKjHaENGaWITHHOOKlWITHHOOKeSTROKElIOTAdWITHSTROKElJaWITHCROSSEDTAILqKbLaEZHaWITHRETROFLEXHOO
KuIGATUREOEjSDIGRAPHiWITHBELTeINVERTEDLAZYSnMIDDLETILDElPALATALHOOKlRETROFLEXHOOKaANDBELTyZDIGRAPHj
MaWITHHOOKjNWITHLEFTHOOKiRETROFLEXHOOKsOaPENEbOeWITHSTROKElPaHIdQbRaAMSHORNhEVERSEDEbGLOTTALSTOPlOP
ENEmWITHFISHHOOKiTAILjSaCHWAdRIPTGgIDEWAYSUiWITHCURLeHOOKjTaCDIGRAPHWITHCURLqESHDIGRAPHkHETAeOPHALF
OhSDIGRAPHaWITHRETROFLEXHOOKzURNEDAaEbLPHAfHbIbMaWITHLONGLEGmOPENEfRaWITHHOOKeLONGLEGaANDRETROFLEXH
OOKÂVbWbYaWITHBELToWITHPALATALHOOKlRETROFLEXHOOKsUaBARdPSILONgWITHLEFTHOOKnVaWITHHOOKeRIGHTHOOKoWbX
bYbZaWITHCURLeRETROFLEXHOOKwTRESSANDHIGHTONEiLOWTONEpUPERSCRIPTHALFTRIANGULARCOLONtTRIANGULARCOLONÀ
TRIANGULARCOLONoURNEDCOMMAlUNASPIRATEDkPARROWHEADjTACKfScVERTICALLINElOICINGhYANGDEPARTINGTONEMARKu
INDEPARTINGTONEMARKÄLETTERAaAbIbUcBAbHAdCAbHAdDAbDAbHAdHAdEbGAbHAdHAcIaIcJAbHAdKAbHAdLAbLAdMAcNAbGA
cNAcYAdObPAbHAdRAcSAbHAcSAdTAbHAcTAbHAeUaUcVAbOCALICLaLcRaRjYAiSIGNANUSVARAhRDHACANDRAlHUVAeVIRAMAe
SARGAlVOWELSIGNAAbIbUcEbIaIcObUaUcVOCALICLaLcRaRtULOTWOSUMkNEYBAGdMOUTHFACEjWITHWINGSlGOLIANBIRGAaW
ITHDOUBLEORNAMENToORNAMENTrCOLONdMMAfDIGITEIGHTfFIVEdOUReNINEeONEdSEVENeIXdTHREEeWOdZEROiOUBLEBIRGA
WITHORNAMENTxELLIPSISiFOURDOTShREEVARIATIONSELECTORFOUReONEdTHREEeWOxULLSTOPiINVERTEDBIRGAaWITHDOUB
LEORNAMENTÅLETTERAaLIGALIAaHbNUSVARAONElBALUDAgCAcDAaGALGAfMARUfDAdHALFUbYAgIaNVERTEDUBADAMApKAcNGA
cNAdPAbHAdSSAdTAbHREEBALUDAkTAbHAeUBADAMAhVISARGAONEkZAbHAjNGdBAcCHAaWITHTWODOTSmIdDAcEaEcFAcGAcHAA
dIbJAcKAbHAdLAbHAdMAaNCHUALIGALIBHAdCAbYAdDDHAdHAdGHAdJHAdLHAdNGAdSSAdTAbTAdZAbHAkFAcIbKAcRAcZHAjNA
cOaEcPAcQAcRAcSAbHAcIBEANGdCHAdDAcEbFAcGAaAdHAaAdIaYcJAcKAcPAcRAAdSHAdTAbSAdUaEcZAbHAhTAbODOALIGALI
TAcZHAjNGdBAcCHAdDAbZAdEbGAaAdHAAdIbJAbIAdKAcLONGVOWELSIGNnMAcNIAdOaEcPAcQAcTAbSAdUaEcWAcYAfSAdUaEc
WAcYAcZAbHIcRAjMANCHUCOMMAfFULLSTOPoNIRUGUgROTATEDBIRGAaWITHDOUBLEORNAMENToORNAMENTySIBESYLLABLEBOU
NDARYMARKERzWIRLBIRGAaWITHDOUBLEORNAMENToORNAMENTwTODOSOFTHYPHENnRIPLEBIRGAWITHORNAMENTwURNEDSWIRLB
IRGAWITHDOUBLEORNAMENTÈVOWELSEPARATORuKEYaFACEhOGRAMFOREARTHfYANGdINkRAILeSTABLESYMBOLoODBUBBLEhNCA
KEeVIEWINGCEREMONYqSEdSQUEbITOgTHERCHRISTMASmORBOATeIZEDWHEELCHAIRoSCOOTERhWAYgUNTAINaBICYCLISTjCAB
LEWAYiRAILWAYkFUJIgSEaFACEeTRAPgTHdVIECAMERAjYAIeRODANDAeIGITEIGHTfFIVEdOUReNINEeONEdSEVENeIXdTHREE
eWOdZEROiOUBLEDANDAlLETTERAbBAcCHUdDAaIdEaAcHAIbOdKEAAEeHAIdOcLAaNdMAEMdIMdNGIcINdOaLbOcPAbHIdRIbOc
SHIdTAbEKcHEAeWAcYOkUCHGREATERTHANlLESSTHANkLTANILETTERAbBAbHAdCAbHAdDAbDAbDAcHAdHAdEbGAbHAdHAcIbJA
bJAdKAbHAdLAcMAcNAbNAcYAdPAbHAdRAbHAcRAdSAcTAbHAcTAbHAeUbVAcYAiSECTIONMARKoIMAPdPLEMUSICALNOTESnICA
TIONSIGNaINDOUBLECIRCLEmLEFTHALFCIRCLEoRIGHTHALFCIRCLEpTRIANGLEkWITHDOTABOVEiUNDERBARqXkSETaMULTIPL
ICATIONoUNIONlSHROOMfICALKEYBOARDaWITHJACKSrNOTEeSCOREeYMBOLARPEGGIATODOWNeUPmBEGINBEAMePHRASEgSLUR
eTIEhRACEbKETfEATHMARKhVEbISaRESTkCAESURAgCLEFeIRCLEXNOTEHEADoLIMACUSfVISeUSTERNOTEHEADBLACKfWHITEt
ODAcMBININGACCENTaSTACCATOnUGMENTATIONDOTpBENDeDOITcUBLETONGUEkWNBOWhFLAG1b2b3b4b5dIPeHARMONICiLOUR
EfMARCATOaSTACCATOpRIPdSMEAReNAPPIZZICATOmPRECHGESANGSTEMpTACCATISSIMOgOgEMeTENUTOfREMOLO1b2b3gIPLE
TONGUEmUPBOWlMONTIMEjRESCENDOhOIXeUTTIMEhDACAPOeLSEGNOgMPaALLfSHEDBARLINEmECRESCENDOjGREESLASHkOUBL
EBARLINEhFLATeSHARPkRUMCLEF1b2jEIGHTHNOTEeRESTjNDBEAMeOFSTIMMEiPHRASEgSLUReTIEgFCLEFaOTTAVAALTAeBAS
SApERMATAaBELOWlINALBARLINEjGEREDTREMOLO1b2b3oVELINESTAFFmLATDOWNeUPfORTEdURLINESTAFFjSTRINGFRETBOA
RDsUSABLACKfWHITEjGCLEFaOTTAVAALTAeBASSApLISSANDODOWNeUPkRACENOTENOSLASHhSLASHmEGORIANCCLEFfFCLEFoH
ALFNOTEePEDALMARKjRESTgUPTSTIMMElINVERTEDTURNmKIEVANCCLEFfEIGHTHNOTESTEMDOWNeUPpNDOFPIECEkFINALNOTE
iLATSIGNiHALFNOTEiQUARTERNOTESTEMDOWNeUPrRECITATIVEMARKoWHOLENOTEoORONfLEFTREPEATSIGNnONGAaIMPERFEC
TARESToPERFECTARESTrMAXIMAfEZZOeINIMAaBLACKfRESTjOONNOTEHEADBLACKfWHITEqULTIPLEMEASURERESToRESTjNAT
URALDOWNeUPiEBENSTIMMEkOTEHEADBLACKmULLNOTEHEADmONEHUNDREDTWENTYEIGHTHNOTEeRESTxLINESTAFFlRNAMENTST
ROKE1a0b1c2b3b4b5b6b7b8b9oTTAVAALTAeBASSAlPARENTHESISNOTEHEADsEDALMARKeUPMARKjSSUBPUNCTISmIANOeLUSN
OTEHEADlODATUSfRRECTUSaFLEXUSpQUARTERNOTEeRESTeTONEFLATeSHARPoINDICESIMAALTAeBASSArREPEATDOTSeEDFIG
URE1b2b3nVERSEFINALBARLINEsIGHTREPEATSIGNnNFORZANDOlSCANDICUSaFLEXUSoEGNOdMIBREVISBLACKfRESTeWHITEl
MINIMABLACKfRESTeWHITEoHARPDOWNeUPfORTBARLINElINGLEBARLINElXLINESTAFFjSTRINGFRETBOARDpTEENTHNOTEeRE
STjYFOURTHNOTEeRESToORIdQUAREBbNOTEHEADBLACKfWHITEsUBITOgTEMPUSIMPERFECTUMCUMPROLATIONEIMPERFECTAaD
IMINUTION1b2b3vPERFECTAÆPERFECTUMCUMPROLATIONEIMPERFECTAkPERFECTAaDIMINUTION1ÔHIRTYSECONDNOTEeRESTo
REELINESTAFFnORCULUSaRESUPINUSqRaIANGLENOTEHEADDOWNBLACKfWHITEjLEFTBLACKfWHITEjRIGHTBLACKfWHITEkUPB
LACKfRIGHTBLACKfWHITEkWHITEpROUNDNOTEHEADDOWNBLACKfWHITEÃURNaSLASHfUPfWOLINESTAFFmVIRGAeOIDNOTEHEAD
mWHOLENOTEeRESTiITHFINGERNAILSpXNOTEHEADjZjFLATSIGNiNATURALSIGNlSHARPSIGNnVScWbYANMARCONSONANTSIGNM
EDIALHAcRAcWAcYAhONMEDIALLAcMAcNAlSHANMEDIALWAzDIGITEIGHTfFIVEdOUReNINEeONEdSEVENeIXdTHREEeWOdZEROj
LETTERAaITONRAgUcBAbHAdCAbHAdDAbDAbHAdHAdEaASTERNPWOKARENGHWAeNNAdYWAsGAbHAcREATSAhHAcIaIcJAbHAdKAb
HAaMTICAbHAdDDAbHAdHAdFAcGAcHAbHAdJAbHAdLLAdNAbYAdRAcSAcTTAbHAeXAcZAiLAbLAdMAbONBBAbEdEbJHAdNGAgNAb
GAcNAbYAdYAdObPAbHAdRAbUMAIPALAUNGFAoSAbGAWKARENSHAlHAaNAbBAbHAdCAbHAdDAcFAcGAbHAdHAcJHAdKAbHAdNAbN
AcYAdPHAdTHAdZAeWEPALAUNGCHAdSHAnSAdTAaILAINGBAbHAdDAbDAbHAdHAdFAcGAbHAdJAbHAdLLAdNNAcYAkHAcTAbHAeU
aUcVOCALICLaLcRaRjWAbESTERNPWOKARENPWAdTHAsYAhOGOGRAMKHAMTIHMcOAYdQNqMODIFIERLETTERKHAMTIREDUPLICAT
IONtSHANREDUPLICATIONÅSHANDIGITEIGHTfFIVEdOUReNINEeONEdSEVENeIXdTHREEeWOdZEROmIGNANUSVARAhSATeDOTBE
LOWiKHAMTITONE1b3lLITTLESECTIONnPAOKARENTONEmRUMAIPALAUNGTONE5rSECTIONgHANCOUNCILEMPHATICTONEmTONE2
b3mSAWdTONE2b3b5b6jTAILAINGTONE2b5nVIRAMAeSARGAhWESTERNPWOKARENTONE1b2b3b4b5xYMBOLAFOREMENTIONEDnIT
ONEXCLAMATIONlONEdTWOiCOMPLETEDjGENITIVEiLOCATIVEiSHANEXCLAMATIONlONEnTAILAINGDIGITEIGHTfFIVEdOUReN
INEeONEdSEVENeIXdTHREEeWOdZEROqONEMARKSGAWKARENHATHIfKEPHOwVOWELSIGNAAbIaTONAaIhEaABOVEgGEBAKARENIk
IaIcKAYAHEEcOEcUgMONIIcOeSGAWKARENEUkHANAAcEaABOVEgFINALYkTALLAAgUaUcVOCALICLaLcRaRjWESTERNPWOKAREN
EUcUEÇNABATAEANCRUCIFORMNUMBERFOURtLETTERALEPHeYINeBETHeDALETHgFINALALEPHfBETHeHEcKAPHeLAMEDHgMEMdN
UNdSHINeYODHjGIMELfHEaTHeKAPHeLAMEDHgMEMdNUNdPEcQOPHeRESHeSADHEdMEKHfHINeTAWcETHeWAWdYODHeZAYINlNUM
BERFIVEdOUReONEaHUNDREDkTENcHREEeWENTYeOpLAdGMUNDARIDIGITEIGHTfFIVEdOUReNINEeONEdSEVENeIXdTHREEeWOd
ZEROjLETTERAaBbHbJbNYdEaGbLLcMbNaNcTTdIaDDcHbSbTcOaLbNGcPbYcUaCbDbKbRiSIGNIKIReMUHORfOJODeSUTUHfTOY
ORrILPOLISHhRASIGNhKbMEBADGEhNDaINAGARIHEADSTROKEkLETTERAaAbIbUcBAbHAdCAbHAdDAbDAbHAdHAdEbGAbHAdHAc
IaIcJAbHAdKAbHAdLAbLAdMAcNAbGAcNAcYAdObPAbHAdRAbRAdSAbHAcSAdTAbHAcTAbHAeUaUcVAbOCALICRaRjYAiSIGNANU
SVARAhVAGRAHAiSIDDHAMhVIRAMAeSARGAlVOWELSIGNAAbIbUcEbIaIcObPRISHTHAMATRAEoUaUcVOCALICRaRÁRROWNOBREA
KSPACEpYCIRCLEDDOTOPERATORlPLUSOPERATORmTIMESOPERATORtOPRODUCTjINTERSECTIONmLOGICALANDdORjPRODUCThS
QUAREINTERSECTIONOPERATORuUNIONOPERATORsUMMATIONjTIMESOPERATORnUNIONaOPERATORWITHDOTdPLUSvWHITEVERT
ICALBARsTIONALDIGITSHAPESlPARKkUSEATEDFACElZARAMULETkBHbSPdECKTIEfGATEDDOUBLEVERTICALBARDOUBLERIGHT
TURNSTILEÍIVEACKNOWLEDGElCIRCLEDDIGITZEROjLATINCAPITALLETTERAbBbCbDbEbFbGbHbIbJbKbLbMbNbObPbQbRbSbT
bUbVbWbXbYbZtNUMBEREIGHTEENhLEVENgFIFTEENgOURTEENiNINETEENiSEVENTEENiIXTEENhTHIRTEENhWELVEdNTYmSQUA
REgTRIANGLEpDIAGONALCROSSfDIAMONDhMIDDLERIGHTTOLOWERCENTREÆSQUAREDABcCROSSMARKjICcLATINCAPITALLETTE
RAbBbCbDbEbFbGbHbIbJbKbLbMbNbObPbQbRbSbTbUbVbWbXbYbZtPAcQUESTIONMARKmSAcWCpITHERAPPROXIMATELYNORACT
UALLYEQUALTOÄSUBSETOFNOREQUALTOqPERSETOFNOREQUALTOvGREATERTHANNOREQUALTOeIVALENTTOmLESSTHANwLESSTHA
NNOREQUALTOeIVALENTTOmGREATERTHANÁLbPTUNEaFORMTWOmRDFACEgSSUSdTINGDOLLSiWITHEGGSkUTERcRALCHESSBISHO
PaROTATEDNINETYDEGREESnTWOHUNDREDSEVENTYDEGREESËEQUIHOPPERaROTATEDNINETYDEGREESÄKINGaROTATEDNINETYD
EGREESnTWOHUNDREDSEVENTYDEGREESÈNIGHTaROTATEDFORTYFIVEDEGREESqNINETYDEGREESnONEHUNDREDTHIRTYFIVEDEG
REESÁTHREEHUNDREDFIFTEENDEGREESzWOHUNDREDSEVENTYDEGREESoTWENTYFIVEDEGREESÎPAWNaROTATEDNINETYDEGREES
nTWOHUNDREDSEVENTYDEGREESÉQUEENaROTATEDNINETYDEGREESnTWOHUNDREDSEVENTYDEGREESÊROOKaROTATEDNINETYDEG
REESnTWOHUNDREDSEVENTYDEGREESÉTURNEDBISHOPgKINGdNIGHTgPAWNeQUEENfROOKpFACEjWAABBREVIATIONSIGNqCOMMA
fDANDAeIGITEIGHTfFIVEdOUReNINEeONEdSEVENeIXdTHREEeWOdZEROiOUBLECOMMAfDANDAlGAPFILLERjINSERTIONSIGNn
LETTERAaAbIbUcBAbHAdCAbHAdDAbDAbHAdHAdEbGAbHAdHAcIaIcJAbHAdKAbHAdLAbHAdMAbHAdNAbGAbHAdHAcNAcYAbHAeO
bPAbHAdRAbHAdSAbHAcSAdTAbHAcTAbHAeUaUcVEDICANUSVARAmOCALICLaLcRaRjWAcYAiOMcPLACEHOLDERMARKpSANDHIMA
RKjIDDHIeGNANUSVARAhVAGRAHAiCANDRABINDUlFINALANUSVARAnJIHVAMULIYAlNUKTAfUPADHMANIYAlVIRAMAeSARGAlVO
WELSIGNAAbIbUcEbIaIcObUaUcVOCALICLaLcRaRtLINEaLEFTeRIGHTjMOONSYMBOLgWITHFACEmSHEQELSIGNjPAPERgTAILU
EDIGITEIGHTfFIVEdOUReNINEeONEdSEVENeIXdTHREEeWOdZEROjLETTERFINALBbDbKbMbNaGcVgHIGHBAcDAcFAcHAcKAbVA
dLAcMAcNAbGAdPAbHAdQAcSAbUAdTAbHAcSAdVAcXAbVAdYAgLOWBAcDAcFAcHAcKAbVAdLAcMAcNAbGAdPAbHAdQAcSAbUAdTA
bHAcSAdVAcXAbVAdYAlSIGNLAEaViTHAMDIGITONElONEMARK1b2jVOWELSIGNAAaYcEbYcEbIIbYcOaAaYcYcUaEaYcUbYcVOW
ELSHORTENERÄXTLINEePAGEhIGHTWITHSTARSmNEPOINTEDWHITESTARrJAeKOCOMBININGDOUBLEDOTABOVEoLONGDESCENDIN
GTONEoHIGHTONEiLOWTONEhRISINGTONEoNASALIZATIONMARKqSHORTHIGHTONEiLOWTONEhRISINGTONEvMAfDANTAYALANjI
GITEIGHTfFIVEdOUReNINEeONEdSEVENeIXdTHREEeWOdZEROiOROMESIGNkEXCLAMATIONMARKpHIGHTONEAPOSTROPHEsLAJA
NYALANjETTERAbBAcCHAdDAaGBASINNAkEaEcFAcGBAdHAcIbJAbONACHAdJAcRAgKAcLAcMAcNaAaWOLOSOhYAaWOLOSOjOaOc
PAcRAbRAdSAcTAcUbWAcYAhOWTONEAPOSTROPHErSYMBOLGBAKURUNENkOODENNENoTAMANSIGNlLbNBSPeOBICYCLEShREAKHE
REeSPACEkENTRYaSIGNjMINALDIGITSHAPESoSMASIGNiOBILEPHONESmNBREAKINGHYPHENoFORKINGhPOTABLEWATERSYMBOL
tONEUNDEREIGHTEENSYMBOLwPEDESTRIANSkIRACYgRaDICMARKSIGNlMALSUBGROUPOFaOREQUALTOwTHEASTANDSOUTHWESTA
RROWqRROWaANDSOUTHEASTARROWrCROSSINGNORTHWESTARROWoSOUTHEASTARROWwWITHHOOKnBLACKARROWkDOUBLEARROWlP
OINTINGAIRPLANEiBUDdLEAFeVINELEAFqSANSSERIFARROWoTRIANGLEHEADEDARROWaTOBARyWHITEARROWoINDICFRACTION
ONEEIGHTHgHALFeQUARTERhSIXTEENTHmTHREEQUARTERSiSIXTEENTHSxPLACEHOLDERMARKpQUANTITYMARKjRTERMARKlRUP
EEMARKoWESTANDSOUTHEASTARROWqRROWaANDNORTHEASTARROWrCROSSINGNORTHEASTARROWwTOCORNERgLONGBARjWITHHOO
KnBLACKARROWkDOUBLEARROWlPOINTINGBUDdLEAFeVINELEAFqSANSSERIFARROWoTRIANGLEHEADEDARROWaTOBARyWHITEAR
ROWrSEbMOKINGSYMBOLnTALMOSTEQUALTOmNELEMENTOFkSUBSETOFgPERSETOFjYMPTOTICALLYEQUALTOvCHECKMARKgDLEFT
SEMICIRCLEWITHTHREEDOTSÀOWERRIGHTSHADOWEDWHITERIGHTWARDSARROWÌRIGHTSEMICIRCLEWITHTHREEDOTSÂUPPERRIG
HTSHADOWEDWHITERIGHTWARDSARROWÐEaBOOKaWITHDECORATIVECOVERxPADbGEeQUALTOeIVALENTTOmGREATERTHANlIDENT
ICALTOlLESSTHANiNORMALSUBGROUPOFaOREQUALTOzPARALLELTOkSIGNdQUAREIMAGEOFOREQUALTOqORIGINALOFOREQUALT
OzTILDEeRUEgULaLcMBEREIGHTEENFULLSTOPpLEVENFULLSTOPoFIFTEENFULLSTOPoOURTEENFULLSTOPqNINETEENFULLSTO
PqSEVENTEENFULLSTOPqIGNcXTEENFULLSTOPpTENFULLSTOPkHIRTEENFULLSTOPpWELVEFULLSTOPlNTYFULLSTOPrEROSIGN
iSHUITERATIONMARKqTANDBOLTjYIAKENGPUACHUEHMONGCIRCLEDCAjDIGITEIGHTfFIVEdOUReNINEeONEdSEVENeIXdTHREE
eWOdZEROjLETTERAaAcCAcDAbLAdEaEcFAcGAcHAaHdIbKAcLAcMAbLAdNAbCAcKAcPAbLAdQAcRAcTAbSAcXAdYAdOaOcPAbLA
dQAcRAbRAdSAcTAbSAcXAdUbVAcWbXAbYAdYAcZAhOGOGRAMNYAJmSIGNFORANIMALgINVERTEBRATEmLOCATIONiPERSONgTHI
NGiXWXWhYLLABLELENGTHENERsTONEBbDbGbJbMbSbVzOBJECTREPLACEMENTCHARACTERyLIQUEANGLEOPENINGDOWNeUPoHYP
HENlSERVEREYESYMBOLqCCULTATIONjRAMOUNTOFCHECKnBELTBUCKLEjOWTIEfRANCHBANKIDENTIFICATIONyCHAIReUSTOME
RACCOUNTNUMBERvDASHdOUBLEBACKSLASHpFORKeHOOKeINVERTEDFORKnTAGONALSIGNkOPUSgDENdFFICEBUILDINGnGHAMFE
ATHERMARKlLETTERAILMeBEITHfCEIRTeOLLeDAIReEABHADHfDHADHfMHANCHOLLlFEARNfGORTeIFINdODHADHhLUISeMUINe
NGEADALgIONeONNcRcPEITHfRUISeSAILdTRAIFgTINNEfUATHdILLEANNhRiREVERSEDFEATHERMARKtSPACEMARKmONEKfHMS
IGNgILDRUMgKHANDSIGNjLCHIKIAHADeDIGITEIGHTfFIVEdOUReNINEeONEdSEVENeIXdTHREEeWOdZEROjGAAHLAATTUDDAAG
pLETTERAAJbKbMbWcGbLbNGcTcEDDcNbPbRRdIHbNYcRbScLAaAcEbIbObUcOBbHbTTcVcUCbDbNNcYiMUGAAHLAATTUDDAAGpT
TUDDAGjPHAARKAAhUNCTUATIONDOUBLEMUCAADmMUCAADrRELAAkDCHINESEHOOKMARKiITERATIONMARKuERADULTfMANdWOMA
NhHUNGARIANCAPITALLETTERAaAbKbMBcNDdCLOSEEgEaBbCaHbScDbEbFbGaYcHbJbKbLaYcMaPcNaCbTaSHAPEDSIGNlYcPbR
bSaZcTaYcVbZaSdIaIcNIKOLSBURGOEcUEmOaEEcOcRUDIMENTAOEcUElSHORTERhUaNKcSbUpNUMBERFIFTYdVEeONEaHUNDRE
DhTHOUSANDlTENjSMALLLETTERAaAbKbMBcNDdCLOSEEgEaBbCaHbScDbEbFbGaYcHbJbKbLaYcMaPcNaCbTaSHAPEDSIGNlYcP
bRbSaZcTaYcVbZaSdIaIcNIKOLSBURGOEcUEmOaEEcOcRUDIMENTAOEcUElSHORTERhUaNKcSbUwITALICLETTERAbBEcCHEdDE
cEaFbKScLbMbNbRaScSaHbSdHEcIaIcKAbEbHEcUcNORTHERNTSElObPEbHEdSHEcOUTHERNTSElTEbHEdUaUcVEcYEcZEiNUME
RALFIFTYdVEeONEdTENqKEYdNORTHARABIANLETTERAINcLEFeBEHdDADbLdES1b2b3dFEHdGEEMdHAINfHAHcEHdKAFcHAHeLA
MdMEEMeNOONeQAFdREHdSADdTAHcEHcHALcEHeWAWdYEHdZAHbINkNUMBERONEdTENcWENTYyPERMICLETTERANcBURdCHERYfD
OIcZHOIdITAfEaFcGAIdHAcIaAbEcKOKEeLEIdMENOEfNENOEfOaOcPEEIeREIdSHCHOOIfOOIeIIdTAIcSIUeUbVERcOOIeYAa
TcERaIbUdRYcUcZATAdHOInSIANNUMBERHUNDREDhONEdTENcWENTYeOjSIGNAaURAMAZDAAa2bHAmBAaGAdUUMISHhCAcDAaHY
AAUSHa2jIbUcFAcGAbUcHAcIbJAbIcKAbUcLAcMAbIbUcNAbUcPAcRAbUcSAbHAcSAdTAbHAcUcUbVAbIcXAbSHAAYATHIYAmYA
cZAgWORDDIVIDERoONALCOMPUTERqSOGDIANFRACTIONONEHALFpLETTERALEPHdTERNATEAYINmYINeBETHeFINALALEPHfBET
HeHEcNUNaWITHVERTICALTAILtSADHEaWITHVERTICALTAILvTAWaWITHVERTICALTAILyGIMELfHEaTHeKAPHeLAMEDHgMEMdN
UNdPEcRESHAYINDALETHoSADHEdMEKHfHINeTAWdWAWdYODHeZAYINkIGATUREAYINDALETHsNUMBERFIVEdOUReONEaHUNDRED
kTENcHIRTYeREEeWENTYeOoUTHARABIANLETTERALEFdYNdBETHeDALETHfHADHEdLETHhFEcGHAYNeIMELfHEaTHeKAPHdHETH
fLAMEDHgMEMdNUNdQOPHeRESHeSADHEdMEKHeTcHINeTAWcETHdHAWcETHfWAWdYODHeZAYNkNUMBERFIFTYfONEgERICINDICA
TORÂTURKICLETTERORKHONAaBbDbEBbDbGbKbLbNbRbSbTbYcGbLbNbQbRbSaHcTbYcBASHeECbLTcMbNCbGbTbYcPbSHcZcIaC
bQcOaEaKcPbQbTiYENISEIAaBbDbEaBbGbKbNaGcTbYcGbLbNGcQbRbSHcTbYcEaCbNCbTbYcSHcZcIaQcOEaKcQvUYGHURCOMB
ININGDOTABOVEfBELOWiTWODOTSABOVEfBELOWvLETTERALEPHfBETHeFINALHETHjGIMELHETHjKAPHeLAMEDHfESHeMEMdNUN
dPEcRESHeSADHEdMEKHfHINeTAWdWAWdYODHeZAYINlPUNCTUATIONBARdFOURDOTSiTWOBARSeDOTSzIVEeMSYMBOLhNCOMING
AUTOMOBILEkBUSdFIREENGINEkPOLICECARjTAXIkEBUTTONMOUSElDOTLEADERgOVERTWODOTSPUNCTUATIONzPIECESWIMSUI
ToIONdWITHEXCLAMATIONMARKWITHLEFTRIGHTARROWABOVEÑPENBOOKcXdCENTREASTERISKiBLACKSTARjCROSSfTEARDROPS
POKEDASTERISKÁIRCUITOUTPUTHTYPESYMBOLlLTYPESYMBOLyFILEFOLDERjOLDERgHANDSSIGNjLOCKeMAILBOXWITHLOWERE
DFLAGlRAISEDFLAGvOUTLINEDRIGHTWARDSARROWxSUBSETePERSETjRATINGSYSTEMCOMMANDuHIUCHUShPOSITIONiTICALDI
SCaICONlONKEYiRANGEBOOKeHEARTgUTANhCUSdIGINALOFhYAAILENGTHMARKlULENGTHMARKmDIGITEIGHTfFIVEdOUReNINE
eONEdSEVENeIXdTHREEeWOdZEROjFRACTIONONEEIGHTHgHALFeQUARTERhSIXTEENTHmTHREEQUARTERSiSIXTEENTHSxISSHA
RgLETTERAaAbIbUcBAbHAdCAbHAdDAbDAbHAdHAdEbGAbHAdHAcIaIcJAbHAdKAbHAdLAbLAdMAcNAbGAcNAcYAdObPAbHAdRAb
HAcRAdSAbHAcSAdTAbHAcTAbHAeUaUcVAbOCALICLaLcRaRjWAcYAbYAjSIGNANUSVARAhVAGRAHAiCANDRABINDUlNUKTAfOVE
RLINEiVIRAMAeSARGAlVOWELSIGNAAbIbUcEbIaIcObUaUcVOCALICLaLcRaRvNATELEFTPARENTHESISpRIGHTPARENTHESISu
THODOXCROSSlWITHDOTINSIDEoSAGECAPITALLETTERAaHbIaNdBRAdCHAdDHAdEaHCHAdKAcPAcTAbSAeINdGHAdHAbYAdIbKA
bHAcYAdLAcMAcNAcOaINdPAcSAbHAdTAbSAbHAeUbWAcZAbHAqSMALLLETTERAaHbIaNdBRAdCHAdDHAdEaHCHAdKAcPAcTAbSA
eINdGHAdHAbYAdIbKAbHAcYAdLAcMAcNAcOaINdPAcSAbHAdTAbSAbHAeUbWAcZAbHArCbMANYADIGITEIGHTfFIVEdOUReNINE
eONEdSEVENeIXdTHREEeWOdZEROjLETTERAaAbLEFeBAcCAYNeDEELdHAdEaEcFAcGAcHAcIbJAcKAAFdHAdLAANeMIINeNUUNe
OaOcQAAFeRAcSAbHIINfTAcUbWAWdXAcYAoTTERcOMANSIYAQALTERNATENUMBEREIGHTfFIVEdOURaHUNDREDlNINEeSEVENeI
XaHUNDREDkTENaTHOUSANDkHREEeWOaTHOUSANDÀFRACTIONONEHALFeSIXTHqMARRATANiNUMBEREIGHTaHUNDREDhTHOUSAND
iYaTHOUSANDoFIFTYaTHOUSANDlVEaHUNDREDhTHOUSANDlORTYaTHOUSANDlURaHUNDREDhTHOUSANDmNINEaHUNDREDhTHOUS
ANDhYaTHOUSANDoONEaHUNDREDhTHOUSANDlSEVENaHUNDREDhTHOUSANDhYaTHOUSANDoIXaHUNDREDhTHOUSANDhYaTHOUSAN
DnTENaTHOUSANDkHIRTYaTHOUSANDmREEaHUNDREDhTHOUSANDmWENTYaTHOUSANDmOaHUNDREDhTHOUSANDÂUNCESIGNhTBOXT
RAYhLINEDBLACKSTARjGREEKCROSSkLATINCROSSkWHITESTARqVERHEATEDFACEkLAPaPINGBLACKSQUARESmWHITEANDBLACK
SQUARESpSQUARESsINEhWLcXbYSTERgPACKAGEfDaDINGCHARACTERoGEaFACINGUPiRbSbWITHCIRCLEDTEXTkURLjODAeHAWH
HMONGCLANSIGNFAJdHAMbWJeKHABdOOcWMdLAUJdISdMUASePHABeTHOJdSABcHEEJeWBeVAJcWJdXYOOJfYAJcEEGlONSONANT
AUcCAUcHAUeHAUcLAUdNAUeLAUdMAUdNAUcCHAUeKAUdLAUdTHAUdSAUfPLHAUfQHAUeRAUdVAUdXAUdYAUmDIGITEIGHTfFIVE
dOUReNINEeONEdSEVENeIXdTHREEeWOdZEROjMARKCIMHOMdKEScHAVeSObUAMeTAUMdUBkNUMBERHUNDREDMILLIONSiSiMILL
IONSiTENBILLIONSiSbTHOUSANDSlRILLIONSpSIGNAVcCIMCHEEMeUAMTSHOOJkHAISLUSNTOGNTOGpNRESTOShPUBDAWBhTSO
VROGgXWVaCHWVlHLIcNUBeIBYAMfLOSdMEEJSUABeTSEEBiUSdNQIGdTUJeTAUcHIRDSTAGEHLImXHEEJCEEVkVOSFEEMeLUBdN
RUAeSEEVeTHIABdOMdSHABCEEBmXAUSdIABdYEEMFAIBeNTXIVfRHOdTOVgOOeZWJTHAJlVOWELKAABbVcBbIBbVcUBbVcVbWBb
VdEBbEBbVcVcIABbVcBbVcOBbOBbVcVcUABbVcBbVcWBbVrLLASdMBRANCHgDOWNHANDiSUPTOGETHERlTREEeUPHANDgYRENEL
EFTPOINTINGFLEURONrTTERALEPHeYINeBETHeDALETHgFINALNUNiGIMELfHEaTHeKAPHeLAMEDHgMEMdNUNdPEcQOPHeRESHe
SADHEdMEKHfHINeTAWcETHeWAWdYODHeZAYINlNUMBERFIVEdOUReONEdTENcHREEeWENTYeOjRIGHTPOINTINGFLEURONÁNCAK
ESfDAFACEhPERCLIPhRACHUTEfGRAPHOScSEPARATORjUSMARKlLLELTOcWITHHORIZONTALSTROKEqTILDEOPERATORwENTHES
IZEDDIGITEIGHTfFIVEdOUReNINEeONEdSEVENeIXdTHREEeWOiHANGULCHIEUCHaAhIEUCaAbUgHIEUHaAgIEUNGaAgKHIEUKH
aAhIYEOKaAhMIEUMaAgNIEUNaAgPHIEUPHaAhIEUPaAgRIEULaAgSIOSaAfTHIEUTHaAhIKEUTaAnIDEOGRAPHALLIANCEiCALL
dONGRATULATIONoEARTHeIGHTeNTERPRISEkFESTIVALhINANCIALhREcVEdOUReHAVEeLABORfMETALeOONeNAMEdINEeONEdR
EACHdPRESENThSOURCEfTeSELFcVENeIXcOCIETYgPECIALgTOCKdUDYeUNbPERVISEjTENcHREEeWOdWATEReOODnKOREANCHA
RACTEROHUcJEONuLATINCAPITALLETTERAbBbCbDbEbFbGbHbIbJbKbLbMbNbObPbQbRbSbTbUbVbWbXbYbZoSMALLLETTERAbB
bCbDbEbFbGbHbIbJbKbLbMbNbObPbQbRbSbTbUbVbWbXbYbZrNUMBEREIGHTEENhLEVENgFIFTEENgOURTEENiNINETEENiSEVE
NTEENiIXTEENhTENcHIRTEENhWELVEdNTYwROTdTALTERNATIONMARKpIALDIFFERENTIALmLINEBACKWARDiDOWNeFORWARDhU
PfYRECYCLEDPAPERSYMBOLyNERSHIPSIGNlYPOPPERjSSEDSYMBOLhNGERSHIPjIVEPULLDOWNOUTPUTSYMBOLqUPOUTPUTSYMB
OLvPORTCONTROLnUCINHAUGLOTTALSTOPaFINALfVARIANTsLETTERAbBAcCAbHAdDAcEbFAbINALKbLbMbNaGcPbTbWbYgGAcH
AcIaAcKAbHAdLAcMAcNAbGAdObPAbHAdRAcSAcTAbHAdUaAcVAcZAhOWFALLINGTONEaFINALfLONGaFINALxMIDLEVELTONEaF
INALfLONGFINALvRISINGTONEaFINALfLONGaFINALtSANDHIGLOTTALSTOPaFINALqTONEaFINALfLONGaFINALÀWPRINTSiDF
bIcEACESYMBOLhHbOCKeNUTSePODdRcDESTRIANiNCILdGUINeOVERSTAMPEDENVELOPEtSIVEFACEiTAGRAMhOPLEHUGGINGlR
CENTSIGNiFORMINGARTSlMANENTPAPERSIGNoILLESIGNjPENDICULARaWITHSpSEVERINGFACElIGNdONALCOMPUTERkBOWING
DEEPLYmCLIMBINGiDOINGCARTWHEELoFROWNINGiINLOTUSPOSITIONnSTEAMYROOMmRAISINGBOTHHANDSINCELEBRATIONÃWI
THBALLdLONDHAIRjCROWNfFOLDEDHANDSlHEADSCARFjPOUTINGFACErPECTIVEiTENTHOUSANDSIGNqSETASIGNhOSIGNgTRID
ISHiHAGSPADOUBLEHEADMARKoLETTERAaLTERNATEYAkSPIRATEDFAlBAcCAaNDRABINDUkHAdDAbDAcZAdEaEcFAcGAbGAdHAc
IbJAcKAbHAdLAcMAcNAbGAcNAcYAdObPAbHAdQAcRAcSAbHAcMALLAgTAbHAcSAbHAdTAbHAeUbVOICEDHAdLESSSHAmWAcXAcY
AcZAbHAjMARKDOUBLESHADkSHADiSINGLEHEADMARKnUBJOINEDLETTERRAcWAcYApPERFIXEDLETTERRAwISTOSDISCSIGNARR
OWfBEEaHIVEgOOMERANGhWcULLSLEGiCAPTIVEfRPENTRYPLANEmTcHILDeLUBdOLUMNeMBaININGOBLIQUESTROKEwDOLIUMeV
EeEAGLEfFLUTEfGAUNTLEThRATERgHELMETfIDEdORNeLIDbLYeMANACLESgTTOCKhOXBACKgPAPYRUSgEDESTRIANjLANETREE
hUMEDHEADkRAMcOSETTEhSAWcHIELDdPdLINGeMALLAXEhTRAINERiTATTOOEDHEADlIARAeUNNYfVINEeWAVYBANDhOMANtILI
PPINEDOUBLEPUNCTUATIONrSINGLEPUNCTUATIONzOENICIANLETTERAINcLFdBETdDELTeGAMLeHEaTdKAFdLAMDeMEMdNUNdP
EcQOFdROSHeSADEdEMKdHINeTAUcETdWAUdYODdZAIjNUMBERONEaHUNDREDkTENcHREEeWENTYeOjWORDSEPARATORuLUSfICK
aUPTRUCKjEbGaFACEeNOSEfLCROWSIGNiEOFPOOgLcNATAdCHEDFINGERSjINGHANDjEAPPLEfDECORATIONlKHEARTgWHEELST
ARkSCESdTOLeTCHFORKaWITHTEETOPsLACARDdEOFINTERESTSIGNmWORSHIPlNCKCONSTANTaOVERTWOPIuYGROUNDSLIDElIN
GCARDACEOFCLUBSfDIAMONDSiHEARTSgSPADESlBACKdLACKJOKERkEIGHTOFCLUBSfDIAMONDSiHEARTSgSPADESnFIVEOFCLU
BSfDIAMONDSiHEARTSgSPADESlOOLcUROFCLUBSfDIAMONDSiHEARTSgSPADESmJACKOFCLUBSfDIAMONDSiHEARTSgSPADESmK
INGOFCLUBSfDIAMONDSiHEARTSgSPADESlNIGHTOFCLUBSfDIAMONDSiHEARTSgSPADESoNINEOFCLUBSfDIAMONDSiHEARTSgS
PADESmQUEENOFCLUBSfDIAMONDSiHEARTSgSPADESnREDJOKERiSEVENOFCLUBSfDIAMONDSiHEARTSgSPADESmIXOFCLUBSfDI
AMONDSiHEARTSgSPADESlTENOFCLUBSfDIAMONDSiHEARTSgSPADESkHREEOFCLUBSfDIAMONDSiHEARTSgSPADESmRUMP1a0b1
b2b3b4b5b6b7b8b9c2a0b1c3b4b5b6b7b8b9fWOOFCLUBSfDIAMONDSiHEARTSgSPADESlWHITEJOKERtDbUaNGEReSMINUSSIG
NjSIGNaABOVEEQUALSSIGNpINLEFTHALFCIRCLEoRIGHTHALFCIRCLEpTRIANGLEkWITHBLACKTRIANGLEnCIRCUMFLEXACCENT
ABOVEvDOTBELOWiSMALLCIRCLEABOVEpUBSCRIPTTWOmTILDEABOVEfBELOWtTOaFORMFIVEdOUReTHREEeWOlMbOCKETCALCUL
ATORoLICECARaSREVOLVINGLIGHTsOFFICERlODLEePCORNeDIRECTIONALFORMATTINGkISOLATEtRTABLESTEREOmSEIDONfI
TIONINDICATORoTALHORNeMARKaFACEkBOXfTABLEWATERSYMBOLoTOdOFFOODgTEDPLANTjUCHcLTRYLEGhNDSIGNgRINGLIQU
IDkTINGCATFACEhFACEjWERONOFFSYMBOLjSYMBOLiSLEEPSYMBOLkYMBOLkRAYERBEADSjECEDESaABOVEALMOSTEQUALTOnEQ
UALSSIGNkNOTALMOSTEQUALTOnEQUALTOkSINGLELINEEQUALSSIGNkNOTEQUALTOzBUTNOTEQUIVALENTTOsOREQUALTOeIVAL
ENTTOoUNDERRELATIONsGNANTMANdPERSONgWOMANkSCRIPTIONTAKEmENTATIONFORMFORVERTICALCOLONdMMAfEMDASHfNDA
SHfXCLAMATIONMARKpHORIZONTALELLIPSISsIDEOGRAPHICCOMMAfFULLSTOPtLEFTANGLEBRACKETmBLACKLENTICULARBRAC
KETwCORNERBRACKETmURLYBRACKETmDOUBLEANGLEBRACKETsPARENTHESISlSQUAREBRACKETnTORTOISESHELLBRACKETuWHI
TECORNERBRACKETnLENTICULARBRACKETzOWLINEhQUESTIONMARKmRIGHTANGLEBRACKETmBLACKLENTICULARBRACKETwCORN
ERBRACKETmURLYBRACKETmDOUBLEANGLEBRACKETsPARENTHESISlSQUAREBRACKETnTORTOISESHELLBRACKETuWHITECORNER
BRACKETnLENTICULARBRACKETeKCETÁSEMICOLONjTWODOTLEADERmWAVYLOWLINEÉTZELeVIOUSPAGEkIMEcNCEaSSeTERaICO
NgSCREENSYMBOLoVACYMESSAGEjTEUSE1b2bONEdTWOlOBINGCANEiHIBITEDSIGNlJECTIVEhPERTYLINEiORTIONaALTOlSER
PINAjSALTERPAHLAVIFOURDOTSWITHCROSSfDOTpLETTERALEPHfBETHeDALETHgGIMELfHEaTHeKAPHeLAMEDHgMEMQOPHhNUN
dPEcSADHEdMEKHfHINeTAWdWAWAYINRESHlYODHeZAYINlNUMBERFOUReONEaHUNDREDkTENcHREEeWENTYeOjSECTIONMARKlT
URNEDSECTIONMARKÄU1b2bBLICADDRESSLOUDSPEAKERwNCTUATIONSPACEkSELEVATUSMARKrRPLEHEARTiSEdSHPINfTLITTE
RINITSPLACESYMBOLzQUADRANTLOWERLEFTeRIGHTkUPPERLEFTaANDLOWERLEFTANDLOWERRIGHTrRIGHTkUPPERRIGHTANDLO
WERLEFTeRIGHTÄRIGHTaANDLOWERLEFTaANDLOWERRIGHTÌUPLEINTEGRALOPERATORqPRIMElOARdRTERNOTEiTERNIONINTEG
RALOPERATORyESTIONEDEQUALTOiXCLAMATIONMARKpMARKkINCUNXgOTATIONMARKnRABBITaFACEiCCOONeINGCARdMOTORCY
CLEoDICALSYMBOLBOTTOMpOaACTIVESIGNkBUTTONjILWAYCARdTRACKjNaBOWeSEDBACKOFHANDkCOMMAfDOTaTEDINTERPOLA
TIONMARKERzFISTeHANDaWITHFINGERSSPLAYEDoPARTBETWEENMIDDLEANDRINGFINGERSÍINTERPOLATIONMARKERtMCSIGNf
DSIGNfRSIGNgSQUAREkMbTaIOdZOReECEIPTeORDSEPARATORmREATIONALVEHICLEqYCLEDPAPERSYMBOLnINGSYMBOLFORGEN
ERICMATERIALSqTYPE1PLASTICSj2PLASTICSj3PLASTICSj4PLASTICSj5PLASTICSj6PLASTICSj7PLASTICSÃDAPPLEfGIFT
ENVELOPEnFERENCEMARKlGIONALINDICATORSYMBOLLETTERAbBbCbDbEbFbGbHbIbJbKbLbMbNbObPbQbRbSbTbUbVbWbXbYbZ
ÀSTEREDSIGNmJANGCONSONANTSIGNHbNaGcRoLETTERAbBAcCAcDAcGAcHAcJAcKAcLAcMAbBAdNAbDAcGAbGAdYAbJAePAcRAc
SAcTAcWAcYAiSECTIONMARKlVIRAMAfOWELSIGNAIbUcEaAbUcIbObUoLIEVEDFACEkMINDERRIBBONmPLACEMENTCHARACTERs
SPONSEfTRICTEDLEFTENTRY1b2pOOMgTURNLEFTeRIGHTfSYMBOLkVERSECHECKERBOARDmDANGLEaWITHUNDERBARrCOMMAfDO
UBLEPRIMEaQUOTATIONMARKsSTROKENOTSIGNtEMPTYSETiFORKEDPARAGRAPHOSrHANDWITHMIDDLEFINGEREXTENDEDÂNOTSI
GNhPILCROWSIGNkRIMEfQUESTIONMARKmRAISEDHANDWITHFINGERSSPLAYEDÁIGHTANGLEjOTATEDFLORALHEARTBULLETySAN
SSERIFCAPITALLqEMICOLONjTHUMBSDOWNSIGNiUPSIGNlILDEaEQUALSkRIPLEPRIMElVICTORYHANDmINDEXfLIGHTFOURPOI
NTEDPINWHEELSTARÀNEFEEDiSOLIDUSaOPERATORiPRECEDINGSUBSETpWITHHORIZONTALSTROKEÁTILDEOPERATORABOVELEF
TWARDSARROWoRIGHTWARDSARROWËOLVINGHEARTSoHINOCEROSjIaALSIGNgBBONaARROWDOWNLEFTeRIGHTjLEFTDOWNeUPgRI
GHTDOWNeUPhUPLEFTeRIGHTqCEBALLeCRACKERjFLEdGHTANDLOWERONEEIGHTHBLOCKtUPPERONEEIGHTHBLOCKuGERBUBBLEi
LEaBRACKETaWITHDOToDOTTEDSUBSTITUTIONMARKERySUBSTITUTIONMARKERsVARIANTWITHSQUARErWITHARCdDOWNWARDSZ
IGZAGARROWÂRCGREATERTHANBRACKETtROWWITHCIRCLEDPLUSlSMALLCIRCLEuBLACKLENTICULARBRACKETrTORTOISESHELL
BRACKETzCEILINGgORNERBRACKETmURLYBRACKETaLOWERHOOKjMIDDLEPIECElUPPERHOOKvDOTTEDSUBSTITUTIONBRACKETx
UBLEANGLEBRACKETlRROWWITHROUNDEDHEADuPARENTHESISlQUOTATIONMARKnWIGGLYFENCErFACINGARMENIANETERNITYSI
GNuFISTeSVASTISIGNaWITHDOTSxISHTAILgVEEIGHTHSBLOCKpLOORfHALFBLACKCIRCLEgSTARhOCKfFOLDERgMEDIUMSHADE
lRUNNINGMANmNDEDINTERLACEDPENTAGRAMvINTERIORPRODUCTpTELEPHONERECEIVERvLOWPARAPHRASEBRACKETuNORMALFA
CTORSEMIDIRECTPRODUCTÃONEEIGHTHBLOCKlQUARTERBLOCKoPENSQUAREDDOTnUTERJOINjPARENTHESISaEXTENSIONjLOWE
RHOOKjUPPERHOOKtOINTINGANGLEBRACKETmCURVEDANGLEBRACKETsDOUBLEANGLEQUOTATIONMARKyMAGNIFYINGGLASSxRAI
SEDOMISSIONBRACKETvSEMIDIRECTPRODUCTpVENEIGHTHSBLOCKqHADEDWHITERIGHTWARDSARROWzIDEARCCLOCKWISEARROW
rWAYSUBRACKEToNGLEQUOTATIONMARKsPEAKERaWITHONESOUNDWAVEmTHREESOUNDWAVESxECHBUBBLElQUAREBRACKETaEXTE
NSIONjLOWERCORNERlUPPERCORNERlWITHDOUBLESTROKEmQUILLfSTROKEgTICKINBOTTOMCORNERmTOPCORNERpUNDERBARyS
HAPEDBAGDELIMITERsUBSTITUTIONBRACKETtTACKdHIRDWHITERIGHTPOINTINGINDEXÀOUGHTBUBBLElREEEIGHTHSBLOCKmQ
UARTERSBLOCKrOLEFTEMBEDDINGjISOLATEhMARKeOVERRIDEmRTOISESHELLBRACKETtRANSPOSITIONBRACKETsIANGLEaABO
VELEFTTRIANGLEtULARONEQUARTERBLOCKzVERTICALBARWITHQUILLlOXLINEpWARDSARROWaABOVEALMOSTEQUALTOnREVERS
EALMOSTEQUALTOnTILDEOPERATORuSHORTLEFTWARDSARROWtTILDEOPERATORrNDUPPERANDLOWERONEEIGHTHBLOCKÄFROMBA
RaTOBLACKDIAMONDvOVERLEFTWARDSARROWsTAILdHROUGHGREATERTHANlSUPERSETiXhOBARcLACKDIAMONDoWITHCORNERDO
WNWARDSpDOTTEDSTEMiUBLEVERTICALSTROKEuEQUILATERALARROWHEADuHOOKeLARGETRIANGLEARROWHEADvOOPeMEDIUMTR
IANGLEARROWHEADxNOTCHEDTAILlPLUSBELOWjSMALLEQUILATERALARROWHEADuTRIANGLEARROWHEADvTROKEgTAILaWITHDO
UBLEVERTICALSTROKEuVERTICALSTROKEvIPDOWNWARDSjUPWARDSkVERTICALSTROKExBACKTILTEDSHADOWEDWHITEARROWÁL
ACKARROWfCIRCLEDWHITEARROWvOTTOMSHADEDWHITEARROWwCOMPRESSEDARROWpDASHEDARROWkOUBLEARROWaFROMBARhTAI
LeWITHSTROKEgVERTICALSTROKExDASHARROWpFINGERPOSTARROWoRONTTILTEDSHADOWEDWHITEARROWÃHANDcRPOONOVERLE
FTWARDSHARPOONuWITHBARBDOWNABOVELEFTWARDSHARPOONWITHBARBDOWNÇBELOWLONGDASHnFROMBARhTOBARfWARDSjUPAB
OVELEFTWARDSHARPOONWITHBARBUPzONGDASHiRIGHTWARDSHARPOONWITHBARBDOWNÈFROMBARhTOBARfWARDSvEAVYARROWfC
OMPRESSEDARROWuLEFTSHADEDWHITEARROWuOPENHEADEDARROWpPAIREDARROWSlUSHINGHANDlQUADRUPLEARROWoRIGHTSHA
DEDWHITEARROWuOCKETgSANSSERIFARROWnQUAREDARROWjIGGLEARROWnTOPSHADEDWHITEARROWsRIANGLEARROWHEADjHEAD
EDARROWaOVERLEFTWARDSTRIANGLEHEADEDARROWÆTOBARfWITHBOLDSHAFTjDOUBLEHORIZONTALSTROKEqVERTICALSTROKEu
HEAVYSHAFTkLONGTIPDOWNWARDSjUPWARDSoMEDIUMSHAFTlNARROWSHAFTlVERYHEAVYSHAFTxDASHEDARROWlPAIREDARROWS
xPLEARROWfDASHARROWoWOHEADEDARROWaFROMBARhWITHDOUBLEVERTICALSTROKEuTAILaWITHDOUBLEVERTICALSTROKEuVE
RTICALSTROKEvRIANGLEARROWHEADSsVERTICALSTROKExTRIPLEDASHARROWyWAVEARROWiHITEARROWaFROMWALLiWITHINTR
IANGLEARROWHEADËHITECORNERBRACKETmURLYBRACKETmLENTICULARBRACKETrPARENTHESISlSQUAREBRACKETnTORTOISES
HELLBRACKETyIGGLYFENCEoNGaABOVEfBUOYeEDPLANEThQUALTOhINEQUALTOhGBELLhOPERATORiPOINThSINGDIAGONALCRO
SSINGFALLINGDIAGONALpSOUTHEASTARROWÉLEbIbMbOcOASTEDSWEETPOTATOqBOTFACEhCKaETeLLEDUPNEWSPAPERmRCOAST
ERhSKATEhINGONTHEFLOORLAUGHINGvOFPAPERjMANASSIGNgCENTURIALSIGNnDENARIUSSIGNlIMIDIASEXTULASIGNrUPOND
IUSSIGNnNUMERALEIGHTeLEVENgFIFTYaEARLYFORMjTHOUSANDlVEaHUNDREDhTHOUSANDlOUReNINEeONEaHUNDREDaTHOUSA
NDpTHOUSANDaCDnREVERSEDONEHUNDREDsSEVENeIXaLATEFORMlTENaTHOUSANDkHREEeWELVEeOkQUINARIUSSIGNnSEMUNCI
ASIGNkSTERTIUSSIGNmXTANSSIGNhULASIGNkILIQUASIGNlUNCIASIGNmOSTERfSEaTTEfTATEDCAPITALQiFLORALHEARTBUL
LETrHEAVYBLACKHEARTBULLETvLIGHTFOURPOINTEDBLACKCUSPzWHITEFOURPOINTEDCUSPzUNDEDSYMBOLFORCAIdFUcLUcSH
OUcUANGXIiXInPUSHPINhTARGETjWBOATgSbUBLESIGNhGBYFOOTBALLlLEDELAYEDjMIDIGITEIGHTfFIVEdOUReNINEeONEdS
EVENeIXdTHREEeWOiFRACTIONONEHALFeQUARTERhTHIRDiTWOTHIRDSrNUMBEREIGHTHUNDREDhYgFIFTYdVEHUNDREDkORTYd
URHUNDREDlNINEHUNDREDhTYgONEHUNDREDkSEVENHUNDREDhTYgIXHUNDREDhTYfTENcHIRTYeREEHUNDREDlWENTYeOHUNDRE
DsNICARLAUGSYMBOLmBELGTHORSYMBOLoCROSSPUNCTUATIONqLETTERACAcESCdLGIZEOLHXjNSUZAgBERKANANBEORCBJARKA
NBvCaALCdEALCdNcWEORTHhDaAGAZDAEGDjOTTEDLbNbPhEaARcHWAZEHEhNGcTHdFEHUFEOHFEFkRANKSCASKETACbESCeEHcI
ScOSoGaARcEBOGYFUGhRdHAEGLHeGLAZHhICELANDICYRkNGaWAZfORcSAZISISSIjWAZEOHhJERANJgKaAUNAbKfLAUKAZLAGU
LOGRLoONGBRANCHARAEeHAGALLHhMADRMfOSSOeYRmMANNAZMANMkNAUDIZNYDNAUDNoOaEbNbObPENPeSOcTHALANETHELOnPE
RTHOPEORTHPnQbRAIDORADREIDRnSHaORTTWIGARAdBJARKANBiHAGALLHhMADRMfNAUDNfOSSOeSOLSeTYRTeYRkIGELLONGBR
ANCHSOLSsOWILOSgTANeTHURISAZTHURSTHORNrIWAZTIRTYRTmURUZURUhVbWaUNJOWYNNWkXbYaRcZhMULTIPLEPUNCTUATIO
NtSINGLEPUNCTUATIONrTVIMADURSYMBOLqNERcINGSHIRTWITHSASHsPEESIGNhSSIANASTROLOGICALSYMBOLBINOVILEiNOV
ILEgQUINTILEiSENTAGONiTREDECILEjVIGINTILEÈSAFETYPINdVESTiGITTARIUSjILBOATgKEBOTTLEANDCUPoLTIREdSHAK
ERhUTINGFACEkMARITANABBREVIATIONMARKqLETTERALAFeBAAcITdDALATfFIcGAMANfINbTbYcKAAFeLABATfMIMdNUNdQUF
dRISHeSHANdINGAAThTAAFdITcSAADIYhYUTdZENjMARKDAGESHgEPENTHETICYUTnINaALAFgNEQUDAAhOCCLUSIONmODIFIER
LETTEREPENTHETICYUTnIbSHORTAuPUNCTUATIONAFSAAQfNGEDdNAAUfRKAANUgTMAAUgBAUdMELODICQITSAmNEQUDAAhQITS
AfSHIYYAALAAjOFMASHFAATlTURUeZAEFdIQAAqVOWELSIGNAaAcEbIbLONGAaAcEbIbUfOaVERLONGAaAkSHORTAfUKUNfUrND
WICHfSSERIFHEAVYDOUBLECOMMAQUOTATIONMARKORNAMENTÀTURNEDCOMMAQUOTATIONMARKORNAMENTÌLOWDOUBLECOMMAQUO
TATIONMARKORNAMENTÎINTERROBANGORNAMENTÀRIcTELLITEaANTENNAnURNeURASHTRACONSONANTSIGNHAARUsDANDAeIGIT
EIGHTfFIVEdOUReNINEeONEdSEVENeIXdTHREEeWOdZEROiOUBLEDANDAlLETTERAaAbIbUcBAbHAdCAbHAdDAbDAbHAdHAdEaE
cGAbHAdHAcIaIcJAbHAdKAbHAdLAbLAdMAcNAbGAcNAcYAdOaOcPAbHAdRAcSAbHAcSAdTAbHAcTAbHAeUaUcVAbOCALICLaLcR
aRjYAiSIGNANUSVARAiCANDRABINDUlVIRAMAeSARGAlVOWELSIGNAAbIbUcEaEcIaIcOaOcUaUcVOCALICLaLcRaRyOPODgXOP
HONEiCALESdRFdHOOLaSATCHELlIbOOTEReRPIONcUSgREENcWDRIVERiIPTCAPITALBbEbFbHbIbLbMbPbRiLIGATUREETORNA
MENTsSMALLEbGbLbOjOLLdUPLEgEALbTcCONDPLACEMEDALnTIONSIGNhOReDNAdEDLINGfNOEVILMONKEYnGMENTaEDDIGITEI
GHTfFIVEdOUReNINEeONEdSEVENeIXdTHREEeWOdZEROqLFIEeMICOLONfDIRECTPRODUCTWITHBOTTOMCLOSEDÃSEXTILEjPAR
ATEDSYMBOLnRIOUSFACEWITHSYMBOLSCOVERINGMOUTHÆVICEMARKjSAMEDOTgQUIQUADRATEmTMINUSfTRANSMITSTATEoWING
NEEDLEkXTILEgGCcHADOWEDWHITECIRCLEgLATINCROSSkSTARoKINGFACEiLLOWPANOFFOODnMROCKfRADAABBREVIATIONSIG
NqCONTINUATIONSIGNqDANDAeIGITEIGHTfFIVEdOUReNINEeONEdSEVENeIXdTHREEeWOdZEROiOUBLEDANDAlEKAMdXTRASHO
RTVOWELMARKtHEADSTROKEkLETTERAaAbIbUcBAbHAdCAbHAdDAbDAbHAdHAdEbGAbHAdHAcIaIcJAbHAdKAbHAdLAbLAdMAcNA
bGAcNAcYAdObPAbHAdRAcSAbHAcSAdTAbHAcTAbHAeUaUcVAbOCALICLaLcRaRjYAiOMcSANDHIMARKjECTIONMARK1b2kPARAT
ORiIGNANUSVARAhVAGRAHAiCANDRABINDUlINVERTEDCANDRABINDUtJIHVAMULIYAlNUKTAfSIDDHAMhUPADHMANIYAlVIRAMA
eSARGAkUTRAMARKjVOWELMODIFIERMARKmSIGNAAbIbUcEbIaIcObPRISHTHAMATRAEoUaUcVOCALICLaLcRaRvKcVEDICEfIAN
LETTERADOcGEcHbIRcREbRAYeSHcWEdBIBdCHURCHgDEADeEARbTcGGcRRdFEEdGAGdHAHAdUNGeIANcCEcFcJUDGEfKICKeLOL
LeMEASUREgIMEeNUNdOAKcILcNbOZEdRbUTdPEEPeROAReSObUREeTHEYcIGHeOTdUPcVOWdWOEbOLeYEAbWdZOOoEEPdIELDdF
TINcOUTfNTOSHRINEjPcOCKEDFACEWITHEXPLODINGHEADzOTINGSTARjPPINGBAGSeTROLLEYmRTBACKSLANTEDSOUTHARROWu
ENTARROWPOINTINGDOWNWARDSTHENNORTHEASTÍCAKEeDOWNTACKaWITHOVERBARtHANDFORMATCONTINUINGOVERLAPrDOWNST
EPiLETTEROVERLAPnUPSTEPqLEFTTACKiRIGHTWARDSARROWABOVELEFTWARDSARROWÈSaLANTEDNORTHARROWrUPTACKaABOVE
SHORTDOWNTACKsWITHUNDERBARuULDEREDOPENBOXoWEReRIMPdUGdUFFLEPRODUCTmYcIaDDHAMDANDAeOUBLEDANDAlENDOFT
EXTMARKnLETTERAaAbIbLTERNATEUjUcBAbHAdCAbHAdDAbDAbHAdHAdEbGAbHAdHAcIaIcJAbHAdKAbHAdLAcMAcNAbGAcNAcY
AdObPAbHAdRAcSAbHAcSAdTAbHAbREECIRCLEALTERNATEIuTAbHAdWOCIRCLEALTERNATEIaIuUaUcVAbOCALICLaLcRaRjYAi
REPETITIONMARK1b2b3pSECTIONMARKDOUBLERINGaWITHRAYSsWITHCIRCLESANDFOURENCLOSURESoRAYSeTWOENCLOSURESx
DOUBLECRESCENTSpQUADRUPLECRESCENTSsRAYSANDDOTTEDCRESCENTSjDOUBLECRESCENTSpTRIPLECRESCENTSÂSEPTUPLEC
RESCENTSrTRIDENTANDDOTTEDCRESCENTSpUSHAPEDORNAMENTSxPLECRESCENTSÂPARATORBARdDOTlIGNANUSVARAiCANDRAB
INDUlNUKTAfSIDDHAMhVIRAMAeSARGAlVOWELSIGNAAbIbLTERNATEUaUkUcEbIaIcObUaUcVOCALICRaRwEWAYSBLACKDOWNPO
INTINGINDEXrLEFTPOINTINGINDEXrRIGHTPOINTINGINDEXsUPPOINTINGINDEXuWHITEDOWNPOINTINGINDEXrLEFTPOINTIN
GINDEXrRIGHTPOINTINGINDEXsUPPOINTINGINDEXÀGNOFTHEHORNSkWRITINGAIRBLOWINGOUTgSMALLROTATIONSsSUCKINGI
NfSMALLROTATIONSvBREATHEXHALEgINHALEkUSHBETWEENhMULTIPLEiSINGLElCHEEKSNEUTRALhPUFFEDgSUCKEDlOLONdMM
AfDREAMYEYEBROWSDOWNNEUTRALlNEUTRALDOWNeUPjUPNEUTRALwYNAMICARROWHEADLARGEfSMALLoEVERYOTHERTIMEoFAST
eGRADUALhRELAXEDhSIMULTANEOUSaALTERNATINGwLOWeTENSEmEARSdXCITEMENTjYEBLINKMULTIPLEiSINGLEkROWSSTRAI
GHTDOWNeNEUTRALhUPpGAZEFLOORPLANECURVEDgSTRAIGHTaALTERNATINGlDOUBLEyWALLPLANECIRCLINGhURVEDgSTRAIGH
TaALTERNATINGlDOUBLEÁLASHESDOWNeFLUTTERINGkUPiSCLOSEDgHALFCLOSEDgOPENiOPENeSQUEEZEDiWIDENINGMOVEMEN
TmOPENjWINKhFACEDIRECTIONPOSITIONNOSEFORWARDTILTINGoUPORDOWNaTILTINGÍILLMODIFIER2b3b4b5b6lNGERfLICK
LARGEMULTIPLEiSINGLElSEQUENTIALjMALLMULTIPLEiSINGLEoOORPLANESHOULDERHIPMOVEyOREHEADCONTACThNEUTRALh
WRINKLEDpULLSTOPiGRASPBETWEENhMULTIPLEiSINGLElHAIRcNDANGLEaINDEXaMIDDLELITTLEgRINGkRINGLITTLEaOUTnT
HUMBaINcOUTnLITTLEINDEXaTHUMBINDEXTHUMBaOUTxUPiMIDDLERINGLITTLEaINcOUTtRINGDOWNMIDDLETHUMBINDEXCROS
SzLITTLEpCIRCLEaINDEXaBENTeHINGEfMIDDLEaCROSSEDcLITTLElLITTLEgRINGeTHUMBlRINGLITTLEpLITTLEINDEXfUPi
MIDDLERINGLITTLEaBENToUPiRINGLITTLEpLAWaFOURFINGERSCONJOINEDuINDEXTHUMBCURVETHUMBINSIDEÀMIDDLERINGL
ITTLECONJOINEDaSIDEÃNOTHUMBhTHUMBFORWARDhSIDEmUPaFIVEFINGERSSPREADaOPENvINDEXaRINGLITTLEkTHUMBaOPEN
oMIDDLERINGLITTLEqNOTHUMBhOPENaNOTHUMBhTHUMBFORWARDhSIDEnTHUMBFORWARDhSIDEkRLICUEaINDEXRINGLITTLEON
rMIDDLERINGLITTLEONsOPENmFISTaFOURFINGERSCONJOINEDBENTyHEELeINDEXaBENTaOVERMIDDLEoCUPPEDgHINGEDaLOW
dMIDDLEUPaTHUMBSIDExMIDDLEaBENTaTHUMBSTRAIGHTrCONJOINEDaCUPPEDaTHUMBFORWARDsHINGEDaTHUMBSIDEpINDEXB
ENTjMIDDLEBENTkTHUMBFORWARDhSIDEaBENTeCONJOINEDÀROSSEDaTHUMBSIDElLITTLElHINGEDaSPREADTHUMBSIDEvLITT
LEgRAISEDKNUCKLESnINGaBENTeCONJOINEDnSTRAIGHTTHUMBBENTrTHUMBaANGLEDaOUTjBENTeCIRCLEDgONJOINEDHINGED
oUPPEDgHINGEDfOOKEDlUPSPREADTHUMBFORWARDÀRAISEDKNUCKLEmINGLITTLEkTHUMBANGLEDINMIDDLEUPkOUTMIDDLEUPr
CIRCLEaDMIDDLEUPoUPPEDMIDDLEUPmRLICUEfVETHUMBINSIDEgUNDERpFORWARDINDEXBENTeSTRAIGHTuHOOKaEDMIDDLEHI
NGEDgUPoSIDEaBOTHBENTiINDEXBENTeHINGEkTHUMBBENTeCONJOINEDjDIAGONALwUPMIDDLEHINGEDaTHUMBCONJOINEDjSI
DEÂLITTLEBENTeDOWNaOTHERSCIRCLEDnRIPPLECURVEDgSTRAIGHTsINDEXaTHUMBkRAISEDKNUCKLEnTHUMBeOUCHESTHUMBm
UPiMIDDLEBENTOVERINDEXnDOWNeLITTLEgRAISEDKNUCKLEmINGLITTLEkTHUMBANGLEDINDEXUPhOUTINDEXCROSSEDhUPqCI
RCLEDINDEXHINGEDgUPnUPPEDINDEXUPnHOOKEDINDEXUPnLITTLElUPaTHUMBSIDErRINGDOWNeINDEXfLITTLEgMIDDLEaCON
JOINEDjRAISEDKNUCKLESuRAISEDKNUCKLEnTHUMBfUPgTHUMBaBETWEENINDEXMIDDLEaSTRAIGHTtMIDDLERINGkRINGLITTL
ErFORWARDhHEELeOVERFOURRAISEDKNUCKLESsTWOFINGERSoSIDEBENTeCONJOINEDjDIAGONALmUNDERFOURFINGERSlINDEX
BENTjLITTLEUPiTHREEFINGERSlWOFINGERSxLATaBETWEENPALMFACINGSsFIVEFINGERSSPREADaBENTeFOURBENTiHINGEDa
NOTHUMBhTHUMBSIDEpTHUMBFORWARDÂOURFINGERSaBENTeCONJOINEDaSPLIToHINGEDrHEELaFIVEFINGERSSPREADaBENTeF
OURBENTzTHUMBSIDEnSPLITCENTREaTHUMBSIDEaBENTtINDEXTHUMBSIDEoLITTLElTHUMBBENTeFORWARDhSIDEnHINGEaFIV
EFINGERSSPREADOPENuOURFINGERSCONJOINEDuINDEXaHINGEDgMIDDLELITTLEgRINGaCONJOINEDtRINGLITTLEkTHUMBaLA
RGEfOPENeSIDEdMALLpLITTLEaINDEXaTHUMBkTHUMBlMIDDLEaRINGLITTLEqNOTHUMBhOPENaNOTHUMBhTHUMBFORWARDhSID
EnRINGaDOWNINDEXTHUMBHOOKMIDDLEÂSMALLfTHUMBBETWEENMIDDLERINGrSIDEaTOUCHINGINDEXÀOOKaCURLICUEiINDEXR
INGLITTLEINcOUTdUNDERuMIDDLERINGLITTLECONJOINEDaINcOUTwTHUMBlRINGTHUMBnOVALaFIVEFINGERSSPREADrINDEX
fLITTLEUPiNOTHUMBhRINGLITTLEkTHUMBFORWARDhSIDEqEADaMOVEMENTCIRCLEgFLOORPLANECURVEfSTRAIGHTsWALLPLAN
ECURVEfSTRAIGHTiTILTvRIMhLIMBCOMBINATIONlLENGTH1b2b3b4b5b6b7jPLOWEROVERUPPERoSPRESSEDTOGETHERqUPPER
OVERLOWERqOCATIONDEPTHfFLOORPLANESPACEpHEADNECKgIGHTgLIMBSDIGITSlTORSOfWALLPLANESPACEnIDTHnMOUTHCLO
SEDCONTACThFORWARDhNEUTRALmORNERShFROWNaOPENeWRINKLEDnKISSaFORWARDhWRINKLEDmOPENCIRCLEgFORWARDhOVAL
aWRINKLEDiYAWNiRECTANGLEaWRINKLEDiYAWNnWRINKLEDmSMILEaOPENeWRINKLEDnTENSEaFORWARDhSUCKEDlWRINKLESDO
UBLEgSINGLErVEMENTDIAGONALAWAYLARGEaSThMEDIUMgSMALLjBETWEENAWAYLARGEaSThMEDIUMgSMALLjTOWARDSLARGEaS
ThMEDIUMgSMALLtTOWARDSLARGEaSThMEDIUMgSMALLuFLOORPLANEARMCIRCLEHITTINGWALLLARGEDOUBLEgSINGLElMEDIUM
DOUBLEgSINGLEmSMALLDOUBLEgSINGLEÅBENDdOXLARGEfMEDIUMgSMALLiCHECKeORNERLARGEfMEDIUMgSMALLkROSSeURVEC
OMBINEDiHITTINGCEILINGLARGEfSMALLmFLOORLARGEfSMALLrLARGEaSThMEDIUMgSMALLkDOUBLEALTERNATINGaWRISTFLE
XuSTRAIGHTiWRISTFLEXpFINGERCIRCLESHITTINGWALLDOUBLEgSINGLExONTACTnHUMPHITTINGCEILINGLARGEDOUBLEgTRI
PLElSMALLDOUBLEgTRIPLEsFLOORLARGEDOUBLElSMALLDOUBLElTRIPLELARGETRIPLElSMALLTRIPLEÃSMALLjJAWdLOOPHIT
TINGCEILINGLARGEDOUBLEgSINGLElSMALLDOUBLEgSINGLEsFLOORLARGEDOUBLEgSINGLElSMALLDOUBLEgSINGLExSMALLjP
EAKSLARGEfMEDIUMgSMALLkSHAKINGPARALLELoINGLESTRAIGHTLARGEaSThMEDIUMgSMALLnWRISTFLEXpTRIPLEALTERNATI
NGMOVEMENTiWRISTFLEXuSTRAIGHTMOVEMENTqWRISTFLEXpWAVEHITTINGCEILINGLARGEfSMALLmFLOORLARGEfSMALLrLARG
EfSMALLeNAKEiRISTCIRCLEHITTINGWALLDOUBLEgSINGLEÂZIGZAGLARGEfMEDIUMgSMALLvHINGEDOWNSEQUENTIALoSIDETO
SIDESCISSORSsUPDOWNALTERNATINGLARGEfSMALLqLARGEfSMALLjSEQUENTIALrWALLPLANEARMCIRCLEMEDIUMDOUBLEgSIN
GLEmSMALLDOUBLEgSINGLEuBENDLARGEfMEDIUMgSMALLiOXLARGEfMEDIUMgSMALLiCHECKLARGEfMEDIUMgSMALLjORNERLAR
GEfMEDIUMgROTATIONiSMALLkROSSeURVEDCROSSMEDIUMgSMALLlHALFCIRCLELARGEaSThMEDIUMgSMALLoITTINGCHESTfFR
ONTWALLqQUARTERLARGEaSThMEDIUMgSMALLmTHENSTRAIGHTkREEQUARTERCIRCLEMEDIUMgSMALLÂDOUBLEALTERNATINGaWR
ISTFLEXuSTRAIGHTiWRISTFLEXpFINGERCIRCLESDOUBLEgSINGLEmONTACTnHUMPHITTINGCHESTfFRONTWALLqLARGEfMEDIU
MgSMALLjJAWdLOOPHITTINGCHESTfFRONTWALLqLARGEfMEDIUMgSMALLaDOUBLEpPEAKSLARGEfMEDIUMgSMALLkSHAKINGgIN
GLESTRAIGHTLARGEaSThMEDIUMgSMALLnWRISTFLEXpTRIPLEALTERNATINGaWRISTFLEXuSTRAIGHTMOVEMENTqWRISTFLEXpW
AVECURVEDOUBLELARGEfMEDIUMgSMALLlTRIPLELARGEfMEDIUMgSMALLqDIAGONALPATHLARGEfMEDIUMgSMALLrHITTINGCHE
STfFRONTWALLtRISTCIRCLEFRONTDOUBLEgSINGLEwZIGZAGLARGEfMEDIUMgSMALLÂNECKdOSECONTACThNEUTRALhWIGGLESg
RINKLESmPARENTHESISlROTATIONFLOORPLANEALTERNATINGaHITTINGCEILINGhFLOORxDOUBLEaHITTINGCEILINGhFLOORs
SINGLEaHITTINGCEILINGhFLOORÂMODIFIER10b1b2b3b4b5b6c2b3b4b5b6b7b8b9jWALLPLANEALTERNATEbINGHITTINGCHE
STfFRONTWALLÁDOUBLEaHITTINGCHESTfFRONTWALLwSINGLEaHITTINGCHESTfFRONTWALLÌUBBETWEENhMULTIPLEiSINGLEj
SEMICOLONiHOULDERHIPPOSITIONSjSPINEiTILTINGFROMWAISTxQUEEZEFLICKALTERNATINGqLARGEMULTIPLEiSINGLElSE
QUENTIALjMALLMULTIPLEiSINGLErTRIKEBETWEENhMULTIPLEiSINGLElURFACEBETWEENhSYMBOLSoTEETHaBITELIPSiMOVE
MENTiONLIPSaMOVEMENTmTONGUEaMOVEMENTtNSECHEEKSHIGHeLOWdMIDDLEqONGUECENTREINSIDEMOUTHlSTICKINGOUTrIN
SIDEMOUTHRELAXEDsLICKINGLIPSlMOVESAGAINSTCHEEKrSTICKINGOUTFARoTIPBETWEENLIPSlTOUCHINGINSIDEMOUTHÀRS
OFLOORPLANETWISTINGsWALLPLANECURVEDBENDkSTRAIGHTSTRETCHÁUCHBETWEENhMULTIPLEiSINGLEkRAVELFLOORPLANER
OTATIONFLOORPLANEALTERNATINGlDOUBLEgSINGLEqWALLPLANEALTERNATINGlDOUBLEgSINGLExSHAKINGrWALLPLANEARMS
PIRALDOUBLEgSINGLEgTRIPLEpROTATIONFLOORPLANEALTERNATINGlDOUBLEgSINGLEqWALLPLANEALTERNATINGlDOUBLEgS
INGLExSHAKINGwUPPERBODYTILTINGFROMHIPJOINTSÃWALLPLANESHOULDERHIPMOVEÇLHOUETTEOFJAPANpMILARABOVEGREA
TERTHANABOVEEQUALSSIGNÀLESSTHANABOVEEQUALSSIGNÂMINUSSIMILARmORGREATERTHANlLESSTHANpNEWAVEfGLECHARAC
TERINTRODUCERtGRAPHICCHARACTERINTRODUCERÀHIGHREVERSED9QUOTATIONMARKÀLEFTPOINTINGANGLEQUOTATIONMARKÃ
OW9QUOTATIONMARKrRIGHTPOINTINGANGLEQUOTATIONMARKÅSHIFT2b3bTHREEeWOlHALAARCHAICDIGITEIGHTfFIVEdOUReN
INEeONEdSEVENeIXdTHREEeWOiNUMBEREIGHTYgFIFTYeORTYfNINETYgONEHUNDREDhTHOUSANDlSEVENTYgIXTYfTENcHIRTY
fWENTYtLETTERAAYANNAgEEYANNAgYANNAgIYANNAgLPAPRAANABAYANNAhCAYANNAhDAYANNAgDAYANNAiGAYANNAhJAYANNAh
KAYANNAhPAYANNAhTAYANNAgTAYANNArMBABAYANNAkUYANNAgYANNAgDANTAJALAYANNAhNAYANNAhSAYANNAoEEYANNAgYANN
AgFAYANNAhHAYANNAhIIYANNAgLUUYANNAgYANNAhRUUYANNAgYANNAhYANNAgKANTAJANAASIKYAYArMAHAAPRAANABAYANNAh
CAYANNAhDAYANNAgDAYANNAiGAYANNAhJAYANNAhKAYANNAhPAYANNAhTAYANNAgTAYANNArYANNAgUURDHAJALAYANNAhNAYAN
NAhSAYANNAqOOYANNAgYANNAgRAYANNAhSANYAKADAYANNAgDAYANNAiGAYANNAhJAYANNAoTAALUJANAASIKYAYAkSANYOOGAN
AAKSIKYAYArYANNAoUUYANNAgYANNAgVAYANNAhYAYANNAmITHDIGITEIGHTfFIVEdOUReNINEeONEdSEVENeIXdTHREEeWOdZE
ROnPUNCTUATIONKUNDDALIYAvSIGNALLAKUNAhNUSVARAYAkCANDRABINDUlVISARGAYAnVOWELSIGNAELAPILLAjDIGAAEDAPI
LLAjGAETTAPILLAjYANUKITTAlISPILLAhKOMBUVAhPAAPILLAmGAETTAPILLAjYANUKITTAlKETTIAEDAPILLAjISPILLAhPAA
PILLAmOMBUDEKAeVAaHAAAELAPILLAjDIGAAELAPILLAnGAYANUKITTAÈTRIANGLEjXPEREMSPACEiTALLEDBLACKANDWHITEFL
ORETTEÂOINTEDBLACKSTARjPINWHEELSTARmSTARWITHMIDDLEDOTyTEENPOINTEDASTERISKvKATEBOARDiIANDSKIBOOTkERd
ULLaANDCROSSBONESpNKeLANTEDEQUALTOORGREATERTHANaWITHDOTINSIDEyLESSTHANaWITHDOTINSIDEÄNORTHARROWWITH
HOOKEDHEADiRIZONTALTAILÆVONICASTERISKoEDbEPINGACCOMMODATIONnFACEeSYMBOLjYFACEhUTHORSPYjICEOFPIZZAjG
HTLYFROWNINGFACEmSMILINGFACErOPEbINGLARGEANDdORlTHbMACHINEkMALLAIRPLANEhMPERSANDiSTERISKiBLUEDIAMON
DlCOLONdMMAbERCIALATkNTAINSASMEMBERiWITHOVERBARhVERTICALBARATENDOFHORIZONTALSTROKEÔDOLLARSIGNkELEME
NTOFaWITHOVERBARhVERTICALBARATENDOFHORIZONTALSTROKEÔMDASHfQUALSSIGNjRTHANaOREQUALTOoXCLAMATIONMARKp
FULLSTOPiGREATERTHANSIGNpHYPHENMINUSlIDEOGRAPHICCOMMAqLEFTCURLYBRACKETmPARENTHESISlTORTOISESHELLBRA
CKETwSSTHANSIGNmNUMBERSIGNkORANGEDIAMONDnPERCENTSIGNkLUSSIGNiQUESTIONMARKmREVERSESOLIDUSnIGHTCURLYB
RACKETmPARENTHESISlTORTOISESHELLBRACKETyOMANNUMERALEIGHTeLEVENgFIFTYdVEaHUNDREDkOUReNINEeONEaHUNDRE
DhTHOUSANDlSEVENeIXdTENcHREEeWELVEeOpSEMICOLONjTILDEeWODOTSOVERONEDOTPUNCTUATIONÂVEEWITHUNDERBARrSH
PRODUCTkILEbINGCATFACEWITHHEARTSHAPEDEYESpOPENMOUTHuFACEWITHHALOdEARTSHAPEDEYESoORNSfOPENMOUTHaANDC
OLDSWEATjSMILINGEYESlTIGHTLYCLOSEDEYESÃSMILINGEYESaANDHANDCOVERINGMOUTHrTHREEHEARTSyUNGLASSESkTEARq
RKINGFACEkOKINGSYMBOLmNAILcKEdEEZINGFACEkOWBOARDERhCAPPEDMOUNTAINoFLAKEfMANaWITHOUTSNOWrOaCCERBALLh
KSdFTBALLeHYPHENgICECREAMiSHELLFLOPPYDISKpWAREFUNCTIONSYMBOLuGDIANCOMBININGCURVEABOVEfBELOWkDOTABOV
EfBELOWiHOOKABOVEfBELOWjLONGHOOKBELOWnRESHBELOWjSTROKEBELOWlTWODOTSABOVEfBELOWvINDEPENDENTSHINpLETT
ERALEPHeYINeBETHeFETHeGIMELfHEaTHeKAPHeLAMEDHfESHeMEMdNUNdPEcRESHAYINiSADHEdMEKHfHINeTAWdWAWdYODHeZ
AYINlNUMBERONEaHUNDREDkTENcWENTYmPUNCTUATIONCIRCLEWITHDOTnHALFCIRCLEWITHDOTrTWOCIRCLESWITHDOTSpVERT
ICALBARSaWITHDOTSÍHbLIDQUILTSQUAREORNAMENTaINBLACKSQUAREÆUSaWITHOVERBARqMSIGNfONWITHRIGHTWARDSARROW
ABOVEÀRASOMPENGDIGITEIGHTfFIVEdOUReNINEeONEdSEVENeIXdTHREEeWOdZEROjLETTERAHcBAHdCAHdDAHdEEHcHcGAHdH
AHdIHcJAHdKAHdLAHdMAEbHdNAHcGAHdYAHeOHcPAHdRAHdSAHdTAHdUHcVAHdYAHsSbUNDRECORDINGCOPYRIGHTuTHEASTARR
OWaANDSOUTHWESTARROWrCROSSINGNORTHEASTARROWwTOCORNERiWITHHOOKnBLACKARROWkDOUBLEARROWlPOINTINGBUDdLE
AFeVINELEAFqSANSSERIFARROWoTRIANGLEHEADEDARROWaTOBARyWHITEARROWoWESTARROWaANDNORTHWESTARROWrWITHHOO
KnBLACKARROWkDOUBLEARROWlPOINTINGBUDdLEAFeVINELEAFqSANSSERIFARROWoTRIANGLEHEADEDARROWaTOBARyWHITEAR
ROWrYOMBOCLUSTERINITIALLETTERLAcRAcSAbHAxFINALCONSONANTSIGN-AcBbDbGbKbLbMbNaGcRbSaHuGEMINATIONMARKo
HEADMARKWITHMOONANDSUNaANDFLAMEfTRIPLEFLAMEÊLETTER-AcAbBAbHAdCAbHAdDAbDAbHAdHAcZAdGAbHAdHAcJAbHAdKA
bHAcSSAeLAcMAcNAbGAcNAcYAdPAbHAdRAcSAbHAcSAdTAbHAcSAbHAdTAbHAeVAcYAcZAbHAjMARKDOUBLESHADkPLUTAfSHAD
eTSHEGjSIGNANUSVARAiJIHVAMULIYAlUPADHMANIYAlVISARGAkUBJOINERjTERMINALMARK1b2nVOWELLENGTHMARKkSIGNAI
bUcEbIbOaEcUaEcVOCALICLbRxPaAaCEcGHETTIgRKLEaScINGHEARTmEAKERaWITHCANCELLATIONSTROKEsONESOUNDWAVEmT
HREESOUNDWAVESvINGHEADINSILHOUETTEtNOEVILMONKEYoECHBALLOONjDBOATgSMILOSIGNkHERICALANGLEaOPENINGLEFT
eUPvIDERaWEBgRALCALENDARPADlNOTEPADhSHELLjLASHINGSWEATSYMBOLsONGEdOLOFTHREADjNcRTSMEDALiUTINGWHALEm
QUAREAARUdMbNPEAeOVERMfPAATOfRUHUAfUcBAARERUfRcEETAeIRUdORUTOfQbUSSYERUiCALbPcCbDbMaCUBEDfSQUAREDiO
aRPORATIONjVERKGgUPdDAaASUdSTERISKiBbCJKUNIFIEDIDEOGRAPH4E00b9c2Dc8CcA4e518Dd21Dc4Dc72d3CCcF3d408c3
9d5B6d8F0d91Ac29dB57dDE6dF8Ce624Bc53c95d307c55d599cB0d620d708b9dE80dF14e7121d51Fc33d981dA7AdD42e89E
3dCA9dD70e904Ad14DwLbOOLeDOTOPERATORlEIGHTKfSIdFALLINGDIAGONALSLASHtIVEPOINTONElOURDOTPUNCTUATIONoK
eREEeHCbDRcIRESeVcIDcJbKATAKANADEcKOKOeSAjEYdLaATINCAPITALLETTERAbBbCbDbEbFbGbHbIbJbKbLbMbNbObPbQbR
bSbTbUbVbWbXbYbZoSMALLLETTERDqOGICALANDdORhSSLESSiMaCUBEDfINUSeSQUAREDhVcNEWcGcOKbNEHUNDREDTWENTYPq
RUdPLUSdPVdRISINGDIAGONALSLASHtSALTIREgDbECONDSCREENkVENPOINTONEmHVcIXTYPfMALLCIRCLEkOScQUAREfScTHR
EEDfIMESeWENTYTWOPOINTTWOpOKeUHDcPWITHEXCLAMATIONMARKvVODcScWCdEEKAAeRANAMEHEISEIgMEIZIfREIWAfSYOUW
AgTAISYOUmGcSUKUUDOhVcFMbOOTcURCORNERSlGALbNMAdRONeBbHZcIGAcNIIdRUDAAgPAcURAMUaTONiYcHAaITUeEKUTAAR
UhRUTUfGbIRAGANAHOKAlONbONbRUePaAcUARADDOgIITOeRANeZcIMAGEOFaOREQUALTOhNOTEQUALTOsNaINGUeTIdUcKAaIR
IdRATTOeORIIgBbCALdEESUeGbHZcIROaGURAMUgMEETORUhWATTOiKbLbMaCAPITALgUBEDfSQUAREDiOHMcOPOdRUNAfPAcTb
UROONEeUZEIROiVbWbYURIIgLEFTOPENBOXOPERATORsMbNbOGbZENGEgXcMAaHHAdIKUROeRUdNSYONfRUKUfBaSMALLgCUBED
fEETORUfGAaTONgGbHZcIKURONfLbRIaBAARUiLbMaCUBEDfSQUAREDiOHMcLbVERSaSQUAREDmPAcSaQUAREDhUAbFbGbLbMbS
bVbWcVaMEGAfWaMEGAgNAaNOdFbMbOTTOeSbVbWcONSUdOMUdRIGINALOFaOREQUALTOhNOTEQUALTOvVcPAaAMPSdSENTOfTUe
CbEEZIdNIHIdSUdSOdFbHbIASUTORUhKObURUfMbOINTOeNDOdSITIONINDICATORqPMcRbSbVbWcRADaOVERSaSQUAREDoEMUc
NTOGENhIGHTOPENBOXOPERATORsRAcTTORUgOOTdUPIIdUBURUhSAIKURUfNTIIMUhENTIbOeIRINGUgRbVcTARGETfHZcONdUO
NdVOVERMgWATTOeBbITHBOTTOMHALFBLACKpCONTOUREDOUTLINEqDIAGONALCROSSHATCHFILLwHORIZONTALFILLoLEFTHALF
BLACKmOWERLEFTDIAGONALHALFBLACKvRIGHTDIAGONALHALFBLACKÁORTHOGONALCROSSHATCHFILLyRIGHTHALFBLACKoTOPH
ALFBLACKmUPPERLEFTDIAGONALHALFBLACKrTOLOWERRIGHTFILLuRIGHTDIAGONALHALFBLACKrTOLOWERLEFTFILLzVERTICA
LFILLqYAADOcRUeUANgTBLACKRIGHTWARDSARROWwIDeS2b3bAcTaADIUMeFFOFAESCULAPIUSlHERMESkMPEDENVELOPEmNDIN
GPERSONlRANDCRESCENTlEQUALSgOFDAVIDgPERATORiTOFGUARDEDAREAlHEADINGhPROTECTEDAREAnSELECTEDAREAlTRING
gTEXThWITHLEFTHALFBLACKnRIGHTHALFBLACKtTIONdUEOFLIBERTYnEAMINGBOWLhLOCOMOTIVEmNOGRAPHICFULLSTOPrTHO
SCOPEjICKFIGUREaLEANINGLEFTeRIGHTmWITHARMSRAISEDkDRESSsOCKCHARThPWATCHhRAIGHTNESSeRULERjWBERRYhESSO
UTLINEDWHITESTARuICTLYEQUIVALENTTOqNGTERMINATORoSbUDIOMICROPHONEnFFEDFLATBREADnPAdXcUBaSCRIPTEIGHTe
QUALSSIGNkFIVEdOUReLEFTPARENTHESISpMINUSfNINEeONEdPLUSSIGNiRIGHTPARENTHESISqSEVENeIXdTHREEeWOdZEROj
ETABOVERIGHTWARDSARROWpSUBSETePERSETnOFaABOVEALMOSTEQUALTOnEQUALSSIGNkNOTEQUALTOkTILDEOPERATORsOREQ
UALTOaWITHDOTABOVEvWITHNOTEQUALTOqWITHDOTdMULTIPLICATIONSIGNBELOWxPLUSSIGNBELOWtTITUTEiCCEEDSaABOVE
ALMOSTEQUALTOnEQUALSSIGNkNOTALMOSTEQUALTOnEQUALTOkSINGLELINEEQUALSSIGNkNOTEQUALTOzBUTNOTEQUIVALENTT
OsOREQUALTOeIVALENTTOoUNDERRELATIONtMMATIONBOTTOMgTOPdWITHINTEGRALtNaBEHINDCLOUDlDANESEAVAGRAHAiCON
SONANTSIGNPAMINGKALhNYAKRAeIKUfSANGANMAcWAxDIGITEIGHTfFIVEdOUReNINEeONEdSEVENeIXdTHREEeWOdZEROjLETT
ERAaEbRCHAICIiBAbHAdCAcDAcEaUcFAbINALKbMgGAcHAcIbJAcKAbHAdLAbEUdMAcNAbGAcYAdObPAcQAcRAbEUdSAbYAdTAc
UbVAcWAcXAcYAcZAiPUNCTUATIONBINDUBASATANGAjCAKRAfDASATANGAjKASATANGAjLEUSATANGAkPANGLONGhURNAMAhSUR
YAvSIGNPAMAAEHfNGLAYARfWISADgYECEKiVIRAMAkVOWELSIGNPAMEPETfNAELAENGhEULEUNGhGHULUfOLONGfYUKUwFLOWER
gRISEaOVERMOUNTAINSrSETOVERBUILDINGSqWITHFACEjPERHEROeSCRIPTEIGHTeQUALSSIGNkFIVEdOUReLATINSMALLLETT
ERIbNqEFTPARENTHESISpMINUSfNINEeONEdPLUSSIGNiRIGHTPARENTHESISqSEVENeIXdTHREEeWOdZEROjETABOVELEFTWAR
DSARROWoSUBSETePERSETnBESIDEANDJOINEDBYDASHWITHSUBSETzSUBSETmOFaABOVEALMOSTEQUALTOnEQUALSSIGNkNOTEQ
UALTOkTILDEOPERATORsOREQUALTOaWITHDOTABOVEvWITHNOTEQUALTOqPRECEDINGSOLIDUSqWITHDOTdMULTIPLICATIONSI
GNBELOWxPLUSSIGNBELOWuVILLAINkRFACEINTEGRALlEReSHIcPENSIONRAILWAYqWANbSHAMPERSANDORNAMENTuIMMERfUNG
DASHiYLOTINAGRILETTERAbBHOcOcCHOcOcDDHOcOcHOcOcEbGHOcOcHOcIbJHOcOcKHOcOcLOcMOcNOcObPHOcOcRObROdSOcT
HOcObTHOcOdUhPOETRYMARK1b2b3b4lSIGNALTERNATEHASANTApNUSVARAiDVISVARAiHASANTAlVOWELSIGNAbEbIbOOcUtMB
OLFORACKNOWLEDGElBACKSPACEiELLeCANCELeRRIAGERETURNoDATALINKESCAPEnELETEaFORMTWOlVICECONTROLFOUReONE
dTHREEeWOqENDOFMEDIUMgTEXTdRANSMISSIONaBLOCKuQUIRYgSCAPEgFILESEPARATORmORMFEEDiGROUPSEPARATORoHORIZ
ONTALTABULATIONuLINEFEEDiMARKSCHAPTERmNEGATIVEACKNOWLEDGErWLINEgULLeRECORDSEPARATORpSAMARITANSOURCE
oHIFTINcOUThPACEeTARTOFHEADINGhTEXTkUBSTITUTEaFORMTWOqYNCHRONOUSIDLEpTYPEAELECTRONICSqUNITSEPARATOR
nVERTICALTABULATIONyMETRYgNaAGOGUEgCHRONOUSIDLEnRIACABBREVIATIONMARKqBARREKHhCOLONSKEWEDLEFTeRIGHTo
NTRACTIONlDOTTEDZLAMAANGULARhHORIZONTALvENDOFPARAGRAPHnSASAABOVEfBELOWkFEMININEDOTlHARKLEANASTERISC
USkMETOBELUSjOBELUSnBASAABOVEfBELOWfESASADOTTEDpORIZONTALCOLONpLETTERALAPHfBETHeDALATHfOTLESSDALATH
RISHrEbFINALSEMKATHmGAMALaGARSHUNInHEaTHeKAPHeLAMADHgMALAYALAMBHAdJAcLLAbLAeNGAcNAbNAdYAdRAcSSAdTTA
lIMdNUNdPEaRSIANBHETHfDHALATHhGHAMALnQAPHeREVERSEDPEjISHeSADHEeEMKATHgHINdOGDIANFEcKHAPHfZHAINlUPER
SCRIPTALAPHqTAWcETHaGARSHUNImWAWdYUDHaHEgZAINkMUSICfOBLIQUELINEABOVEfBELOWqPTHAHAABOVEfBELOWfDOTTED
mQUSHSHAYAjRBASAABOVEfBELOWjUKKAKHAhWAHAfSUBLINEARCOLONaSKEWEDLEFTeRIGHTqFULLSTOPpPRALINEARCOLONaSK
EWEDLEFTpFULLSTOPtTHREEDOTSABOVEfBELOWnWOVERTICALDOTSABOVEfBELOWuZQAPHAABOVEfBELOWfDOTTEDoNGEhTABaL
ETENNISPADDLEANDBALLwCOcGALOGLETTERAaRCHAICRAjBAcDAcGAcHAcIbKAcLAcMAcNAbGAdPAcRAcSAcTAcUbWAcYAiSIGN
PAMUDPODiVIRAMAkVOWELSIGNIbUnMPERSANDiPOSTROPHEjSTERISKiBANWALETTERAbBAcDAcGAcIbKAcLAcMAcNAbGAdPAcS
AcTAcUbWAcYAiVOWELSIGNIbUpCIRCUMFLEXACCENTpOLONdMMAbERCIALATmDIGITEIGHTfFIVEdOUReNINEeONEdSEVENeIXd
THREEeWOdZEROiOLLARSIGNkEQUALSSIGNjXCLAMATIONMARKpFULLSTOPiGRAVEACCENTjEATERTHANSIGNpHYPHENMINUSlLA
TINCAPITALLETTERAbBbCbDbEbFbGbHbIbJbKbLbMbNbObPbQbRbSbTbUbVbWbXbYbZoSMALLLETTERAbBbCbDbEbFbGbHbIbJb
KbLbMbNbObPbQbRbSbTbUbVbWbXbYbZqEFTCURLYBRACKETmPARENTHESISlSQUAREBRACKETpSSTHANSIGNlOWLINEhNUMBERS
IGNkPERCENTSIGNkLUSSIGNiQUESTIONMARKkOTATIONMARKnREVERSESOLIDUSnIGHTCURLYBRACKETmPARENTHESISlSQUARE
BRACKETsSEMICOLONiOLIDUSgPACEfTILDEfVERTICALLINEnILELETTERAaIbUEdEaEbHcFAcHAcIbKAbHAdLAcMAcNAbGAdOa
OcPAbHAdQAcSAcTAbHAcONE2b3b4b5b6eSAbHAeUaEcVAcXAcYAkTHAMCOMBININGCRYPTOGRAMMICDOTxNSONANTSIGNBAcFIN
ALNGAiHIGHRATHAORLOWPAqLATANGLAIiOWPAfMAbEDIALLAcRAiSApHORADIGITEIGHTfFIVEdOUReNINEeONEdSEVENeIXdTH
REEeWOdZEROnLETTERAbBAcDAcEEcGREATSAhHIGHCAbHAdFAcHAcKAbHAcXAdPAbHAdRATHAfSAbHAcSAdTAbHAdYAgIaIcLAa
EcLAcOWCAbHAdFAcHAcKAbHAcXAdPAbHAdRATHAfSAcTAbHAdYAeUEdMAcNAbGAcYAdOOcRAaNAcTAdUEdUaUcWAiSIGNCAANGf
DOKMAIgHANGdOYdKAANaKUUgEOWdHUENLUEKARANiTONE3b4b5kMAIKANGaLAIhSAMdYAMOKiRAHAAMfEVERSEDROTATEDRANAt
SAKOTdTKAANaKUUiWANfTONE1b2fWIANGaWAAKnTHAMDIGITEIGHTfFIVEdOUReNINEeONEdSEVENeIXdTHREEeWOdZEROnVOWE
LSIGNAaAbEbIcEbIaIcMAISATgOaAABOVEfBELOWgObYcTALLAAfHAMAIgUaEbUaEqVIETLETTERHIGHBOcCHOcOcDOcFOcGOcH
OcKHHOcOcOcLOcMOcNGOcObYOdObPHOcOcROcSOcTHOcOcVOcYOgLOWBOcCHOcOcDOcFOcGOcHOcKHHOcOcOcLOcMOcNGOcObYO
dObPHOcOcROcSOcTHOcOcVOcYOlMAIKANGdHIThSYMBOLHOHOIfKOIKOIeNdNUENGfSAMjTONEMAIEKcNUENGfSONGeTHOkVOWE
LAAbMbNbUEcYcEbIaAcObUaAbEaAnKEOUTBOXhRIABBREVIATIONSIGNqDIGITEIGHTfFIVEdOUReNINEeONEdSEVENeIXdTHRE
EeWOdZEROjLETTERAaAbIbRCHAICKHAjUcBAbHAdCAbHAdDAbDAbHAdHAdEbGAbHAdHAcIaIcJAbHAdKAbHAdLAcMAcNAbGAcNA
cYAdObPAbHAdRAbRAdSAbHAdTAbHAcTAbHAeUaUcVAcYAiSIGNANUSVARAiNUKTAfVIRAMAeSARGAlVOWELSIGNAAbIbUcEbIaI
cObUaUoLLYMARKFIVEeONEkMALEdILANDODDSIGNjSABOVESIGNkULENGTHMARKmCREDITSIGNjURRENTSIGNlDAYSIGNgEBITS
IGNiIGITEIGHTfFIVEdOUReNINEeONEdSEVENeIXdTHREEeWOdZEROiRYCULTIVATIONSIGNsFRACTIONDOWNSCALINGFACTORK
IIZHwONEEIGHTHbIETHjFIFTHeORTIETHiHALF1b2fONEHUNDREDANDSIXTIETHvQUARTERhSIXTEENTH1b2gYFOURTHlTENTHe
HIRTYSECONDkREEHUNDREDANDTWENTIETHxWENTIETHmTHREEEIGHTIETHSkQUARTERSiSIXTEENTHSgYFOURTHSmTWENTIETHS
xINPOSSESSIONSIGNqLANDSIGNhETTERAaAbIbUcCAcEaEcHAcIaIcJAcKAcLAbLAbLAeMAcNAbGAcNAbNAdYAdOaOcPAcRAbRA
dSAbHAcSAdTAbTAdUaUcVAcYAiMONTHSIGNjNUMBERONEHUNDREDhTHOUSANDlSIGNeTENjOMcPUNCTUATIONENDOFTEXTuRUPE
ESIGNjSALTPANSIGNkIGNAAZHAAKKUiNUSVARAiCEVITUgKAACUeURUNIeZHIfMUKKURUNIhTHALIYAhUVUZHAKKUlNELdPAARA
MeNAMdTHAKKUhONdUZHAKKUhVAKAIYARAAiRAAKANhELIdIRAMAeSARGAkPENTSIGNiTARTINGFROMSIGNqTOTALSIGNiRADITI
ONALCREDITSIGNkNUMBERSIGNvVOWELSIGNAAbIbUcEaEcIaIcOaOcUaUlWETCULTIVATIONSIGNsYEARSIGNlNABATATREEjGE
RINEfSADIGITEIGHTfFIVEdOUReNINEeONEdSEVENeIXdTHREEeWOdZEROjLETTERACbQbWCbQbXbZcXbZcBAcCAbHAdDAbHAdE
CbQbXbZcFAbINALNGhGAbHAdHAbTAbTAeICbQbXbZcKAbHAdLAbONGUEXhMAbCbQbXbZcNAbGAcHAcYAdOCbQbXbZcPAbHAdRAc
SAbHAbORTAWXdUEZiTAbHAcSAdUCbECbQbXbZcICbQbUCbQbXbZcXbZcQbXbZcVCbQbXbZcWAcXAcYAcZAkUTCOMPONENT001b2
b3b4b5b6b7b8b9c10b1b2b3b4b5b6b7b8b9c20b1b2b3b4b5b6b7b8b9c30b1b2b3b4b5b6b7b8b9c40b1b2b3b4b5b6b7b8b9c
50b1b2b3b4b5b6b7b8b9c60b1b2b3b4b5b6b7b8b9c70b1b2b3b4b5b6b7b8b9c80b1b2b3b4b5b6b7b8b9c90b1b2b3b4b5b6b
7b8b9d100b1b2b3b4b5b6b7b8b9c10b1b2b3b4b5b6b7b8b9c20b1b2b3b4b5b6b7b8b9c30b1b2b3b4b5b6b7b8b9c40b1b2b3
b4b5b6b7b8b9c50b1b2b3b4b5b6b7b8b9c60b1b2b3b4b5b6b7b8b9c70b1b2b3b4b5b6b7b8b9c80b1b2b3b4b5b6b7b8b9c90
b1b2b3b4b5b6b7b8b9d200b1b2b3b4b5b6b7b8b9c10b1b2b3b4b5b6b7b8b9c20b1b2b3b4b5b6b7b8b9c30b1b2b3b4b5b6b7
b8b9c40b1b2b3b4b5b6b7b8b9c50b1b2b3b4b5b6b7b8b9c60b1b2b3b4b5b6b7b8b9c70b1b2b3b4b5b6b7b8b9c80b1b2b3b4
b5b6b7b8b9c90b1b2b3b4b5b6b7b8b9d300b1b2b3b4b5b6b7b8b9c10b1b2b3b4b5b6b7b8b9c20b1b2b3b4b5b6b7b8b9c30b
1b2b3b4b5b6b7b8b9c40b1b2b3b4b5b6b7b8b9c50b1b2b3b4b5b6b7b8b9c60b1b2b3b4b5b6b7b8b9c70b1b2b3b4b5b6b7b8
b9c80b1b2b3b4b5b6b7b8b9c90b1b2b3b4b5b6b7b8b9d400b1b2b3b4b5b6b7b8b9c10b1b2b3b4b5b6b7b8b9c20b1b2b3b4b
5b6b7b8b9c30b1b2b3b4b5b6b7b8b9c40b1b2b3b4b5b6b7b8b9c50b1b2b3b4b5b6b7b8b9c60b1b2b3b4b5b6b7b8b9c70b1b
2b3b4b5b6b7b8b9c80b1b2b3b4b5b6b7b8b9c90b1b2b3b4b5b6b7b8b9d500b1b2b3b4b5b6b7b8b9c10b1b2b3b4b5b6b7b8b
9c20b1b2b3b4b5b6b7b8b9c30b1b2b3b4b5b6b7b8b9c40b1b2b3b4b5b6b7b8b9c50b1b2b3b4b5b6b7b8b9c60b1b2b3b4b5b
6b7b8b9c70b1b2b3b4b5b6b7b8b9c80b1b2b3b4b5b6b7b8b9c90b1b2b3b4b5b6b7b8b9d600b1b2b3b4b5b6b7b8b9c10b1b2
b3b4b5b6b7b8b9c20b1b2b3b4b5b6b7b8b9c30b1b2b3b4b5b6b7b8b9c40b1b2b3b4b5b6b7b8b9c50b1b2b3b4b5b6b7b8b9c
60b1b2b3b4b5b6b7b8b9c70b1b2b3b4b5b6b7b8b9c80b1b2b3b4b5b6b7b8b9c90b1b2b3b4b5b6b7b8b9d700b1b2b3b4b5b6
b7b8b9c10b1b2b3b4b5b6b7b8b9c20b1b2b3b4b5b6b7b8b9c30b1b2b3b4b5b6b7b8b9c40b1b2b3b4b5b6b7b8b9c50b1b2b3
b4b5b6b7b8b9c60b1b2b3b4b5b6b7b8mITERATIONMARKrPECARTRIDGEjDRIVEhURUSeXIdEACUPWITHOUTHANDLEqPOTdRDRO
PBARBEDRIGHTWARDSARROWvSPOKEDASTERISKsOFFCALENDARnDDYBEARhLEPHONELOCATIONSIGNmONTOPOFMODEMmRECEIVER
aWITHPAGEnORDERiSIGNjSCOPEfVISIONhUGUAILENGTHMARKmDIGITEIGHTfFIVEdOUReNINEeONEdSEVENeIXdTHREEeWOdZE
ROjFRACTIONDIGITONEFOREVENPOWERSOFFOURqODDPOWERSOFFOURvTHREEFOREVENPOWERSOFFOURqODDPOWERSOFFOURwWOF
OREVENPOWERSOFFOURqODDPOWERSOFFOURvZEROFORODDPOWERSOFFOURÉLENGTHMARKiTTERAaAbIbUcBAbHAdCAbHAdDAbDAb
HAdHAcZAdEaEcGAbHAdHAcIaIcJAbHAdKAbHAdLAbLAbLAeMAcNAaKAARAPOLLUlGAcNAcYAdOaOcPAbHAdRAbRAbRAeSAbHAcS
AdTAbHAcSAcTAbHAeUaUcVAbOCALICLaLcRaRjYAiSIGNANUSVARAhVAGRAHAiCANDRABINDUkOMBININGANUSVARAABOVEnCAN
DRABINDUABOVEzNUKTAfSIDDHAMhTUUMUfVIRAMAeSARGAlVOWELSIGNAAbIbUcEaEcIaIcOaOcUaUcVOCALICLaLcRaRwNGESI
GNgNISRACQUETANDBALLrTcSTTUBEgTRAGRAMFORACCUMULATIONlDVANCEgGGRAVATIONkSCENTgBARRIERgOLDRESOLUTIONn
RANCHINGOUTmCENTREfHANGEfLOSEDMOUTHgNESSfUREgOMPLETIONfIANCEiNSTANCYgTACTdENTIONgRARIETYlDARKENINGi
ECISIVENESSkFECTIVENESSORDISTORTIONxPARTUREiIFFICULTIESkMINISHMENTjMINGfVERGENCEjOUBTeUTIESgEASEdMB
ELLISHMENTmNCOUNTERSiDEAVOURhLARGEMENTkTERNITYhXHAUSTIONkFAILUREgLIGHTfOLLOWINGhSTERINGiULLCIRCLEgN
ESSiGATHERINGaINkOINGTOMEETkREATNESSiUARDEDNESSlHARDNESShOLDINGBACKlINCREASEgNERfJOYdKEEPINGSMALLlI
NSHIPhLABOURINGhWORMODELjEGIONgMASSINGgEASUREgIREDfONTHEVERGEjPPOSITIONkPACKINGfTTERNgENETRATIONkUR
ITYgREACHdLEASEfSIDENCEfSTANCEhPONSEhITUALgSEVERANCEiINKINGgTOPPAGEfVEdRENGTHiUNITYfVASTNESSORWASTI
NGrWAITINGfTCHfYOUTHFULNESSxHAANAAABAAFILIiBAFILIhEBEFILIgEBEEFILIiYBEYFILIjIBIFILIhLETTERAINUdLIFU
fBAAdCHAVIYANIjDAADHUeVIYANIhHAALUgFAAFUfGAAFUeHAINUfNAVIYANIjHAAcHAAeJAVIYANIiKAAFUeHAAeLAAMUeHAVI
YANIjMEEMUfNAAcOONUfPAVIYANIiQAAFUfRAAdSAADHUfEENUeHAVIYANIhEENUgTAVIYANIhHAAaLUfObTAAeVAAVUfWAAVUf
YAAdZAAbVIYANIhOiOABOAFILIiBOFILIgOBOOFILIjSUKUNfUBUFILIkICHARACTERANGKHANKHUkBOBAIMAIiCHOCHANaGdIN
GdOEhDOCHADAfDEKfFOFAaNdNGMANhHOHIPdNOKHUKiKHOKHAIcONcUATdWAIfMUTdRAKHANGjOKAIfLAKKHANGYAOkOCHULAfL
INGfUcMAICHATTAWAiEKcHANAKAThTAIKHUfHOcRIdYAMOKhOMAeNGONGUfIKHAHIThONENcUeOANGePAIYANNOIiHINTHUfOPH
ANcUNGfSAMPHAOjOPLAfRORUAeUcSARAAaAbEbIMAIMALAIeUANiMcEbIaIcObUaEaEcUfORUSIeSALAdObUAfTHANTHAKHATjO
NANGMONTHOkPHUTHAOhTHAHANdNcONGdUNGhOPATAKfTAOfWOWAENgYAMAKKANhOYAKcINGoURRENCYSYMBOLBAHTsDIGITEIGH
TfFIVEdOUReNINEeONEdSEVENeIXdTHREEeWOdZEROlEREDOESNOTEXISTmEXISTSgFOREfMODYNAMIChMETERjINGREEKCROSS
kKINGFACEiSALTIREgPACEgRDPLACEMEDALnONGSANDALiUGHTBALLOONmREEBUTTONMOUSElCONSECUTIVEEQUALSSIGNSwDBO
TTOMLIGHTEDRIGHTWARDSARROWHEADÆIMENSIONALANGLEpLEFTLIGHTEDDOWNWARDSEQUILATERALARROWHEADÎOTPUNCTUATI
ONnRIGHTLIGHTEDUPWARDSEQUILATERALARROWHEADÍTOPLIGHTEDLEFTWARDSEQUILATERALARROWHEADÃRIGHTWARDSARROWH
EADjEQUILATERALARROWHEADÏEMDASHgLEFTWARDSARROWSoINESCONVERGINGLEFTeRIGHTuNETWORKEDCOMPUTERSsPEREMSP
ACEjOINTEDBLACKSTARqRAYSABOVEfBELOWfLEFTeRIGHTiIGHTWARDSARROWSqSPEECHBUBBLESqUMBSDOWNSIGNiUPSIGNjND
ERCLOUDANDRAINmSTORMlIBETANASTROLOGICALSIGN-KHYUDPAiSDONGTSHUGSkGRAGCAN-CHARRTAGSÈCANTILLATIONSIGNC
ANGTEUhHEAVYBEATjLIGHTBEATjSBUB-CHALzDIGITEIGHTfFIVEdOUReHALFEIGHTfFIVEdOUReNINEeONEdSEVENeIXdTHREE
eWOdZEROiNINEeONEdSEVENeIXdTHREEeWOdZEROjKURUKHAaBZHIMIGCANrLETTER-AcAbBAbHAdCAbHAdDAbDAbHAdHAcZAbH
AeFIXEDFORMRAlGAbHAdHAcJAcKAbHAcKAcSSAeLAcMAcNAbGAcNAcYAdPAbHAdRAbRAdSAbHAcSAdTAbHAcSAbHAdTAbHAeWAc
YAcZAbHAiOGOTYPESIGNCHADRTAGSjLHAGRTAGSvMARKANGKHANGGYAScONmBKA-SHOGGIMGORGYANkYIGMGOnSDUSRTAGSiKA-
SHOGGIMGORGYANqURYIGMGOlCARET-DZUDRTAGSBZHIMIGCANkMELONGCANtYIGMGOPHURSHADMAuHEMGOfLOSINGBRDARNYING
YIGMGOSGABMAwYIGMGOSGABMAtDELIMITERTSHEGBSTARtGTERTSHEGfYIGMGO-UMGTERTSHEGMAlRNAMBCADMAnTRUNCATEDAt
UGRTAGSGYAScONmHALANTAhINITIALBRDARNYINGYIGMGOMDUNMAwYIGMGOMDUNMArTERSYLLABICTSHEGsLEADINGMCHANRTAG
SrMNYAMYIGGIMGORGYANsNGASBZUNGNYIZLAgSGORRTAGSrYISSHADeTSHEGaSHADnPALUTAgRGYAGRAMSHADlINCHENSPUNGSS
HADrSBRULSHADiHADeTRAILINGMCHANRTAGSrSA-PHRUgHEGSHADjYIGMGOTSHEGSHADMAvSIGNGRUCANRGYINGSkMEDRGYINGS
nINVERTEDMCHUCANpLCETSACANhIRTAGSiMARTSHEShCHUCANhNYIZLANAADAlRDELDKARGCIGdNYISeSUMeRDELNAGlNAGGCIG
dNYISeSUMeRDELDKARoJESSUNGAROkNAMBCADiSNALDANhYANGRTAGShRTSHESlUBJOINEDLETTER-AcAbBAbHAdCAbHAdDAbDA
bHAdHAcZAbHAeFIXEDFORMRAcWAcYAlGAbHAdHAcJAcKAbHAcSSAeLAcMAcNAbGAcNAcYAdPAbHAdRAcSAbHAcSAdTAbHAcSAbH
AdTAbHAeWAcYAcZAbHAjSIGNINVERTEDMCHUCANpLCETSACANjMCHUCANtYLLABLEOMiMBOLDRILBUgNORBUaBZHI-KHYILkGSU
M-KHYILkNYIS-KHYILpPADMAGDANiHURPAgRDORJEaRGYAGRAMuVOWELSIGNAAcEaEcIaIcOaOcREVERSEDIaIkUaUcVOCALICL
aLcRaRxCKETeEOVERINFINITYnFINAGHCONSONANTJOINERpLETTERAHAGGARYAZHkYERYAGHiBERBERACADEMYYAHbJqTAWELL
EMETYAZmUAREGYAGHbNcHbKaHcNGcQbZHkYAaAbBaHcCHcDaDaHcHcFbGaHaHdHaHcJbKaHaHdLbMbNbPbQbRaRcSaHbScTaHbT
cVbWbYbZaHbZdEaYcIbObUiMODIFIERLETTERLABIALIZATIONMARKÅSEPARATORMARKtGERaFACEgHTTRIFOLIATESNOWFLAKE
wLDEaOPERATORaABOVELEFTWARDSARROWoRIGHTWARDSARROWuWITHDOTABOVEiRISINGDOTSwWITHDOTABOVEfBELOWiRINGAB
OVEqMERCLOCKgSWITHLEFTHALFBLACKnRIGHTHALFBLACKvNYaTWODOTSOVERONEDOTPUNCTUATIONÄREDFACEgHUTAABBREVIA
TIONSIGNpNJIeDIGITEIGHTfFIVEdOUReNINEeONEdSEVENeIXdTHREEeWOdZEROjGVANGfLETTERAaAbIbUcBAbHAdCAbHAdDA
bDAbHAdHAdEbGAbHAdHAcIaIcJAbHAdKAbHAdLAcMAcNAbGAcNAcYAdObPAbHAdRAcSAbHAcSAdTAbHAcTAbHAeUaUcVAbOCALI
CLaLcRaRjYAiOMcSIGNANUSVARAhVAGRAHAiCANDRABINDUlNUKTAfVIRAMAeSARGAlVOWELSIGNAAbIbUcEbIaIcObSHORTEbO
gUaUcVOCALICLaLcRaRwONIANSIGNCAPITALETjETnOILETeKYOTOWERiMATOeNGUEeOLBOXeTHaBRUSHiPARCANTICLOCKWISE
ARROWaWITHPLUSÀCLOCKWISEARROWWITHMINUSÀCURLYBRACKETmHALFBLACKCIRCLElINTEGRALiLEFTPARENTHESISpRIGHTP
ARENTHESISqSECTIONSIGNnTdLEFTCORNERfROPeHALFBRACKETpPARENTHESISlRIGHTCORNERfROPeHALFBRACKETqSQUAREB
RACKETnTORTOISESHELLBRACKETuWITHUPWARDSARROWABOVEwRTOISESHELLBRACKETEDCJKUNIFIEDIDEOGRAPH4E09c8Ce52
DDdB89e6253d557d72Ce70B9d6D7xLATINCAPITALLETTERSÍTALRUNOUTiOLETTERAaEcBAbREATHYAEcEaOcIaUjCHAdDAcEa
OcGAcHAcIaUcJAcKAcLAcMAcNAbGAdObPAcRAcSAcTAcUbWAcYAiSIGNRISINGTONErRACKBALLfTOReDEMARKSIGNkINcMaCAR
eNSPLUTOfVERSALINTERSECTIONvEXcIANGLEHEADEDRIGHTWARDSARROWvWITHDOTABOVEiROUNDEDCORNERSoSERIFSATBOTT
OMoUNDERBARoULARBULLETgFLAGONPOSTkRULERmCOLONfDENTEMBLEMkGRAMFOREARTHfFIREeHEAVENgLAKEeMOUNTAINiTHU
NDERhWATEReINDlPLECOLONOPERATORnDAGGERgHORIZONTALBARWITHDOUBLEVERTICALSTROKEuTRIPLEVERTICALSTROKEËI
NTEGRALiNESTEDGREATERTHANlLESSTHANoPLUSdRIMEfSOLIDUSBINARYRELATIONvTILDEfVERTICALBARBINARYRELATIONo
DELIMITERjRIGHTTURNSTILEoWITHHORIZONTALSTROKEÉOLLaEYBUShPHYcICALDRINKfFISHkUEaLIGHTMOONARTAoMPETgSH
IRTfUGRIKSIGNiLIPdMBLERGLASSkRKEYcISHLIRASIGNmNEDAMPERSANDiNGLEfBLACKPENTAGONiSHOGIPIECEpCAPITALFhO
MMAfDAGGERfIGITTHREEeWOiGREEKSMALLLETTERIOTAuNORTHEASTPOINTINGLEAFqWESTPOINTINGLEAFtTSIGNhOKHANDSIG
NkSANSSERIFCAPITALGbLbYqEMICOLONiMALLFfOUTHEASTPOINTINGLEAFqWESTPOINTINGLEAFvWHITESHOGIPIECEsTLEfWE
LVEPOINTEDBLACKSTARuISTEDRIGHTWARDSARROWSvOASTERISKSALIGNEDVERTICALLYÀBUTTONMOUSElCONSECUTIVEEQUALS
SIGNSwDOTLEADERgPUNCTUATIONlSOVERONEDOTPUNCTUATIONzEMDASHgHEARTSgINTERSECTINGLOGICALANDdORvJOINEDSQ
UARESnLOGICALANDOPERATORlOROPERATORrMENHOLDINGHANDSpSPEECHBUBBLESnWOMENHOLDINGHANDSuUGARITICLETTERA
INcLPAeBETAeDELTAeHALeGAMLAeHAINfHOaTAeIbKAFcHAdLAMDAfMEMdNUNdPUcQOPAeRASHAfSADEcMKAeHINdSUdTETcHAN
NAfOcUbWOcYODdZETAdUiWORDDIVIDERsMBRELLAaONGROUNDiWITHRAINDROPSuNAMUSEDFACEkCERTAINTYSIGNnDERTIEfOS
YMBOLiICORNFACEiONaABOVEBARABOVEINTERSECTIONuINTERSECTIONrBESIDEANDJOINEDWITHUNIONyWITHLOGICALORjMI
NUSSIGNjOVERBARnTEDSYMBOLiSEPARATORkVERSALRECYCLINGSYMBOLwMARRIEDPARTNERSHIPSYMBOLzPARROWHEADaBETWE
ENTWOHORIZONTALBARSyINARECTANGLEBOXtTHROUGHCIRCLEsBARBLEFTDOWNBARBLEFTHARPOONlRIGHTHARPOONyRIGHTDOW
NBARBLEFTHARPOONlRIGHTHARPOONÃDOWNARROWaWITHBASEnBLACKARROWkDOUBLEARROWlSANSSERIFARROWoTRIANGLEHEAD
EDARROWtWHITEARROWoFISHTAILiPERANDLEFTANDLOWERTRIANGULARTHREEQUARTERSBLOCKÍOWERONEEIGHTHBLOCKoTRIAN
GULARHALFBLOCKyRIGHTANDLOWERTRIANGULARTHREEQUARTERSBLOCKÒBLADESCISSORSnFIVEEIGHTHSBLOCKqHALFBLOCKaA
NDLOWERHALFINVERSEMEDIUMSHADEÉCIRCLEgINVERSEMEDIUMSHADEANDLOWERHALFBLOCKÂWHITECIRCLEsMEDIUMSHADEpLE
FTBLOCKDIAGONALLOWERCENTRETOLOWERMIDDLERIGHTqUPPERMIDDLERIGHTlRIGHTsLEFTTOLOWERMIDDLERIGHTqUPPERCEN
TREgMIDDLERIGHTwMIDDLELEFTTOUPPERCENTREgMIDDLERIGHTlRIGHTÁUPPERMIDDLELEFTTOUPPERCENTREgRIGHTÎCORNER
WITHDOTnORLOWERRIGHTCURLYBRACKETSECTIONÅQUADRANTCIRCULARARCtTOLOWERRIGHTFILLpRIANGLEcULARMEDIUMSHAD
EzONEEIGHTHBLOCKlQUARTERBLOCKpRIGHTBLOCKDIAGONALLOWERMIDDLELEFTTOLOWERCENTREgRIGHTÁUPPERCENTRETOLOW
ERMIDDLERIGHTlRIGHTkUPPERMIDDLERIGHTyLEFTTOLOWERCENTREgMIDDLERIGHTqUPPERMIDDLERIGHTwMIDDLELEFTTOLOW
ERCENTREgMIDDLERIGHTlRIGHTÎDROPSHADOWEDWHITESQUARExORLOWERLEFTCURLYBRACKETSECTIONÄPENCILgQUADRANTCI
RCULARARCtSHADOWEDWHITECIRCLEgSQUAREtTOLOWERLEFTFILLoRIANGLEcULARMEDIUMSHADEÀSEVENEIGHTHSBLOCKrTHRE
EEIGHTHSBLOCKmQUARTERSBLOCKrRIANGULARONEQUARTERBLOCKÁOINTINGAIRPLANEiMILITARYAIRPLANEqREDTRIANGLElS
MALLAIRPLANEiREDTRIANGLEqTRIANGLEWITHLEFTHALFBLACKnRIGHTHALFBLACKÈRIGHTDIAGONALELLIPSISvSIDEDOWNFAC
EmTACKaWITHCIRCLEABOVEtWARDSANCORAfRROWaANDRIGHTONEEIGHTHBLOCKwFROMBARhLEFTWARDSOFDOWNWARDSARROWzTO
BARfWITHDOUBLESTROKEmEQUILATERALARROWHEADuHORIZONTALSTROKEqLARGETRIANGLEARROWHEADwMEDIUMTRIANGLEARR
OWHEADxNOTCHEDTAILlSMALLEQUILATERALARROWHEADuTRIANGLEARROWHEADwTIPLEFTWARDSjRIGHTWARDSwBLACKARROWfC
IRCLEDWHITEARROWwCOMPRESSEDARROWpDASHEDARROWkOUBLEARROWlFINGERPOSTARROWpHARPOONWITHBARBLEFTBESIDEDO
WNWARDSHARPOONWITHBARBRIGHTÃUPWARDSHARPOONWITHBARBRIGHTÇFROMBARhTOBARfWARDSjRIGHTFROMBARhTOBARfWARD
SyEAVYARROWfCOMPRESSEDARROWuPAIREDARROWSmQUADRUPLEARROWoROCKETgSANSSERIFARROWnQUAREDARROWmTRIANGLEA
RROWHEADjHEADEDARROWaLEFTWARDSOFDOWNWARDSTRIANGLEHEADEDARROWÍTOBARfWITHBOLDSHAFTjDOUBLEHORIZONTALST
ROKEwHEAVYSHAFTkLONGTIPLEFTWARDSjRIGHTWARDSrMEDIUMSHAFTlNARROWSHAFTlVERYHEAVYSHAFTxDASHEDARROWlPAIR
EDARROWSxPLEARROWkWOHEADEDARROWaFROMSMALLCIRCLEpWITHTRIANGLEARROWHEADSÊWHITEARROWaFROMBARaWITHHORIZ
ONTALBARyONPEDESTALaWITHHORIZONTALBARnVERTICALBARzWITHINTRIANGLEARROWHEADÂDOUBLEARROWaONPEDESTALÆRA
NUSfScVAICOMMAfDIGITEIGHTfFIVEdOUReNINEeONEdSEVENeIXdTHREEeWOdZEROjFULLSTOPiQUESTIONMARKmSYLLABLEAa
NcBAbEaEcHAbEaEcIbOaOcUcIbOaOcUcCAbEaEcIbOaOcUcDAbEaEcHAbEaEcHAbEaEcIbOaOcUcIbOaOcUcIbOaOcUcEaEaNcN
cFAbEaEcIbOaOcUcGAbBAbEaEbNcIbOaNbOcUcEaEbNcIbOaOcUcHAaNcEaEbNcIaNcOaNbOcUaNdIaNcJAbEaEcIbOaOcUcKAa
NcEaEcIbOaOcPAaNcEaEbNcIbOaOcUcUcLAbEaEbNGTHENERjIbOaOcUcMAbBAbEaEcIbOaOcUcEaEcGBAbEaEcIbOaOcUdIbOa
OcUcNAbDAbEaEcIbOaLEDOcFAcKAcMAcSOOfOcUcEaEcGaANcENcGAbEaEbNcIbOaOcUcONdIbJAbEaEcIbOaOcUcOaOcUbYAbE
aEcIbOaOcUdOaNbOaNdPAbEaEcIbOaOcUcRAbEaEcIbOaOcUcSAbEaEcHAbEaEcIbOaOcUcIbOaOcUcTAbEaEcHAbEaEcIbOaOc
UcIbOaOcUcUaNcVAbEaEcIbOaOcUcWAaNcEaEaNcNcIaNcOaNbOaNdUaNdYAbEaEcIbOaOcUcZAbEaEcHAbEaEcIbOaOcUcIbOa
OcUiMBOLBANGeDANGdOOaNGfFAAcEENGfJONGeKEENGeUNGeNIIdTAAcINGdONGlMPIREfRIATIONSELECTOR1a0a0b1b2b3b4b
5b6b7b8b9c1a0b1b2b3b4b5b6b7b8b9c2a0b1b2b3b4b5b6b7b8b9c3a0b1b2b3b4b5b6b7b8b9c4a0b1b2b3b4b5b6b7b8b9c5
a0b1b2b3b4b5b6b7b8b9c6a0b1b2b3b4b5b6b7b8b9c7a0b1b2b3b4b5b6b7b8b9c8a0b1b2b3b4b5b6b7b8b9c9a0b1b2b3b4b
5b6b7b8b9d2a0a0b1b2b3b4b5b6b7b8b9c1a0b1b2b3b4b5b6b7b8b9c2a0b1b2b3b4b5b6b7b8b9c3a0b1b2b3b4b5b6b7b8b9
c4a0b1b2b3b4b5b6b7b8b9c5a0b1b2b3b4b5b6c6b7b8b9c3a0b1b2b3b4b5b6b7b8b9c4a0b1b2b3b4b5b6b7b8b9c5a0b1b2b
3b4b5b6b7b8b9c6a0b1b2b3b4b5b6b7b8b9c7a0b1b2b3b4b5b6b7b8b9c8a0b1b2b3b4b5b6b7b8b9c9a0b1b2b3b4b5b6b7b8
b9sECTORORCROSSPRODUCTsDICSIGNANUSVARAANTARGOMUKHAmBAHIRGOMUKHAmUBHAYATOMUKHAnVAMAGOMUKHAaWITHTAILÀ
RDHAVISARGAlTIKRAMAiDOUBLEANUSVARAANTARGOMUKHAÀHEXIFORMLONGANUSVARAuJIHVAMULIYAlLONGANUSVARAmNIHSHV
ASAjREVERSEDVISARGAANUDATTAiUDATTAuOTATEDARDHAVISARGAsTHANGLONGANUSVARAsTIRYAKgUPADHMANIYAlVISARGAA
NUDATTAaWITHTAILqSVARITAhUDATTAaWITHTAILvYAJURVEDICMIDLINESVARITAÂTONEATHARVAVEDICINDEPENDENTSVARIT
AÄCANDRAABOVEfBELOWlDOTBELOWgUBLERINGABOVEjSVARITAnKARSHANAgTHAKAANUDATTApPRENKHAhRIGVEDICKASHMIRII
NDEPENDENTSVARITAÆNGABOVEjSHARAfTHREEDOTSBELOWnRIPLESVARITAmWODOTSBELOWmYAJURVEDICAGGRAVATEDINDEPEN
DENTSVARITAÂINDEPENDENTSVARITAsKATHAKAINDEPENDENTSVARITAaSCHROEDERÙRSICLEfTICALBARBESIDERIGHTTRIANG
LEtDOUBLELEFTTURNSTILEtTRIPLERIGHTTURNSTILEuWITHHORIZONTALSTROKExELLIPSISiFOURDOTSiIDEOGRAPHICITERA
TIONMARKyKANAREPEATMARKaLOWERHALFjUPPERHALFnWITHVOICEDSOUNDMARKaUPPERHALFÌLINEaEXTENSIONjWITHCIRCLE
ABOVEfBELOWlMIDDLEDOTrMALEWITHSTROKESIGNsONEEIGHTHBLOCK2b3b4b5b6b7pSIXDOTShTABKEYdULATIONaSETmILDEe
RAFFICLIGHTmZIGZAGLINEpYBOLDGREEKCROSSoHEAVYEIGHTPOINTEDBLACKSTARqSPOKEDASTERISKtFIVESPOKEDASTERISK
sGREEKCROSSkREVERSESOLIDUSoSALTIREgIXSPOKEDASTERISKqOLIDUShWHITECIRCLEgSQUAREqMUCHGREATERTHANlLESST
HANoSTAeIBRATIONMODElCTORYHANDjDEOCAMERAeSSETTEiGAMEhETNAMESEALTERNATEREADINGMARKCAcNHAYÅWDATASQUAR
EmOLINeRGOdTHKUQICAPITALLETTERAbBBEcEcCEbHEdDEbHEdEaIcFEcGAcHAbHAdIaJEdJEcKAcLAbLAdMEcNEbJEdObPEcQA
cREcSEbHEdTEbHEdUbVEcXEcYbZEpSMALLLETTERAbBBEcEcCEbHEdDEbHEdEaIcFEcGAcHAbHAdIaJEdJEcKAcLAbLAdMEcNEb
JEdObPEcQAcREcSEbHEdTEbHEdUbVEcXEcYbZEuOIDEDGREEKCROSSoLCANOeLEYBALLhUMEINTEGRALnS1a0a0b1b2b3b4b5b6
b7b8b9c1a0b1b2b3b4b5b6b7b8b9c2a0b1b2b3b4b5b6b7b8b9c3a0b1b2b3b4b5b6b7b8b9c4a0b1b2b3b4b5b6b7b8b9c5a0b
1b2b3b4b5b6b7b8b9c6a0b1b2b3b4b5b6b7b8b9c7a0b1b2b3b4b5b6b7b8b9c8a0b1b2b3b4b5b6b7b8b9c9a0b1b2b3b4b5b6
b7b8b9d2a0a0b1b2b3b4b5b6b7b8b9c1a0b1b2b3b4b5b6b7b8b9c2a0b1b2b3b4b5b6b7b8b9c3a0b1b2b3b4b5b6b7b8b9c4a
0b1b2b3b4b5b6b7b8b9c5a0b1b2b3b4b5b6c6b7b8b9c3a0b1b2b3b4b5b6b7b8b9c4a0b1b2b3b4b5b6b7b8b9c5a0b1b2b3b4
b5b6b7b8b9c6a0b1b2b3b4b5b6b7b8b9c7a0b1b2b3b4b5b6b7b8b9c8a0b1b2b3b4b5b6b7b8b9c9a0b1b2b3b4b5b6b7b8b9d
TaScULCANUSfGARFRACTIONFIVEEIGHTHShSIXTHSjOURFIFTHSkONEEIGHTHgFIFTHfHALFeNINTHfQUARTERhSEVENTHgIXTH
fTENTHeHIRDiSEVENEIGHTHSmTHREEEIGHTHShFIFTHSgQUARTERSmWOFIFTHSgTHIRDSjZEROTHIRDSyWAFFLEeNCHODIGITEI
GHTfFIVEdOUReNINEeONEdSEVENeIXdTHREEeWOdZEROjLETTERAaAaNaGdNGcUcBAcCAcDAcEaNcFAcGAcHAcIaNGdJAcKAbHA
dLAbLHAeMAcNAbGAcYAdOaNaGdPAbHAdRAcSAbHAdTAbHAcRAcSAdUaENdVAcWAcYAbIHdZAiNGUNSIGNiTONEKOIaNIfTUPaNI
mINGCRESCENTMOONSYMBOLsGIBBOUSMOONSYMBOLvRANGCITICAPITALLETTERAaMbNGcTcBUcDAcEaNNbYdGAcHARcIYOdOLOc
RReIIcKOcNGAAdUNGeOaDDdPUcSIIcSUUeTTEdUCbUcVIYOeWIcYAbObUaJqDIGITEIGHTfFIVEdOUReNINEeONEdSEVENeIXdT
HREEeWOdZEROjNUMBEREIGHTYgFIFTYeORTYfNINETYgSEVENTYgIXTYfTENcHIRTYfWENTYmOMcSMALLLETTERAaMbNGcTcBUc
DAcEaNNbYdGAcHARcIYOdOLOcRReIIcKOcNGAAdUNGeOaDDdPUcSIIcSUUeTTEdUCbUcVIYOeWIcYAbObUaJvNINGSIGNjSTEBA
SKETjTCHcERBUFFALOhCLOSETgMELONfPOLOeWAVEhVEARROWPOINTINGDIRECTLYLEFTeRIGHTÀDASHfINGBLACKFLAGjHANDS
IGNiWHITEFLAGmYDASHeLINEdOWLINEhOVERLINEkXINGCRESCENTMOONSYMBOLsGIBBOUSMOONSYMBOLwEARYCATFACEhFACEh
DDINGeGETAILEDRIGHTWARDSARROWyIERSTRASSELLIPTICFUNCTIONyGHTLIFTERkSTSYRIACCROSSoHALEdEELaCHAIRSYMBO
LlOFDHARMAlITEARROWSHAFTWIDTHONEdTWOTHIRDSyBULLETgCHESSBISHOPaROTATEDNINETYDEGREESnTWOHUNDREDSEVENT
YDEGREESËEQUIHOPPERaROTATEDNINETYDEGREESÄKINGaROTATEDNINETYDEGREESnTWOHUNDREDSEVENTYDEGREESÈNIGHTaB
ISHOPgQUEENfROOKcTATEDFORTYFIVEDEGREESqNINETYDEGREESnONEHUNDREDTHIRTYFIVEDEGREESÁTHREEHUNDREDFIFTEE
NDEGREESzWOHUNDREDSEVENTYDEGREESoTWENTYFIVEDEGREESÎPAWNaROTATEDNINETYDEGREESnTWOHUNDREDSEVENTYDEGRE
ESÉQUEENaROTATEDNINETYDEGREESnTWOHUNDREDSEVENTYDEGREESÊROOKaROTATEDNINETYDEGREESnTWOHUNDREDSEVENTYD
EGREESÉTURNEDBISHOPgKINGdNIGHTgPAWNeQUEENfROOKoIRCLEaCONTAININGBLACKSMALLCIRCLEÀWITHDOTRIGHTgWNARRO
WjLOWERLEFTQUADRANTmRIGHTQUADRANTsTWODOTShUPPERLEFTQUADRANTmRIGHTQUADRANTÁLUBSUIThONCAVESIDEDDIAMON
DaWITHLEFTWARDSTICKnRIGHTWARDSTICKËDIAMONDaCONTAININGBLACKMEDIUMDIAMONDnSMALLDIAMONDmVERYSMALLDIAMO
NDÅINSQUAREiSUITeWITHCENTREDDOTuOWNPOINTINGBACKHANDINDEXnINDEXfLEFTHANDINDEXnSMALLTRIANGLEnTRIANGLE
tRAUGHTSKINGeMANlEXCLAMATIONMARKORNAMENTxFEATHEREDRIGHTWARDSARROWxLAGaWITHHORIZONTALMIDDLEBLACKSTRI
PEÇORETTEfWERfOURPOINTEDCUSPeSTARoROWNINGFACEmHARDSHELLFLOPPYDISKsEARTaSUITgVYCHECKMARKjSALTIREWITH
ROUNDEDCORNERSÂXAGONgORIZONTALELLIPSEpURGLASSjLARGESQUAREjTINCROSSjEFTLANEMERGEjPOINTINGBACKHANDIND
EXnINDEXfPOINTERhSMALLTRIANGLEnTRIANGLEtOZENGECONTAININGBLACKSMALLLOZENGEÈMEDIUMDIAMONDhLOZENGEhSMA
LLSQUAREkQUAREfTARjOONSELENAkNIBdPARALLELOGRAMmENNANTeTAGONiQUESTIONMARKORNAMENTuRECTANGLEiIGHTPOIN
TINGBACKHANDINDEXnINDEXfPENTAGONhOINTERhSMALLTRIANGLEnTRIANGLEvSCISSORShESAMEDOTiHOGIPIECEjMALLLOZE
NGEhSQUAREfTARhILINGFACEkPADESUITiQUAREaBUTTONgCONTAININGBLACKMEDIUMSQUAREmSMALLSQUARElVERYSMALLSQU
AREÄWITHCENTREVERTICALLINEsLEFTWARDSTICKmOWERLEFTQUADRANTmRIGHTQUADRANTsRIGHTWARDSTICKnOUNDEDCORNER
SoUPPERLEFTQUADRANTmRIGHTQUADRANTsVERTICALBISECTINGLINEÄTARdUNaBEHINDCLOUDaWITHRAINtWITHRAYSeSMALLC
LOUDrTELEPHONEiOUCHTONETELEPHONErRAPEZIUMhIANGLECONTAININGSMALLWHITETRIANGLEÉWOWAYLEFTWAYTRAFFICuUP
POINTINGBACKHANDINDEXnCHEVRONhINDEXfSMALLTRIANGLEnTRIANGLEaWITHDOTzVERTICALBARdELLIPSEhRECTANGLEoYS
MALLSQUAREtIDEHEADEDDOWNWARDSBARBARROWjHEAVYBARBARROWoLIGHTBARBARROWoMEDIUMBARBARROWpVERYHEAVYBARBA
RROWÁLEFTWARDSBARBARROWjHEAVYBARBARROWoLIGHTBARBARROWoMEDIUMBARBARROWpVERYHEAVYBARBARROWÁNORTHEASTB
ARBARROWjHEAVYBARBARROWoLIGHTBARBARROWoMEDIUMBARBARROWpVERYHEAVYBARBARROWwWESTBARBARROWjHEAVYBARBAR
ROWoLIGHTBARBARROWoMEDIUMBARBARROWpVERYHEAVYBARBARROWÁRIGHTWARDSBARBARROWjHEAVYBARBARROWoLIGHTBARBA
RROWoMEDIUMBARBARROWpVERYHEAVYBARBARROWÂSOUTHEASTBARBARROWjHEAVYBARBARROWoLIGHTBARBARROWoMEDIUMBARB
ARROWpVERYHEAVYBARBARROWwWESTBARBARROWjHEAVYBARBARROWoLIGHTBARBARROWoMEDIUMBARBARROWpVERYHEAVYBARBA
RROWÁUPWARDSBARBARROWjHEAVYBARBARROWoLIGHTBARBARROWoMEDIUMBARBARROWpVERYHEAVYBARBARROWÇGGLYVERTICAL
LINEqLTEDFLOWERkNDBLOWINGFACElCHIMEfOWdEGLASSgGbKINGFACEjREDKEYBOARDjLESShJbOLFFACEgMANaSBOOTSfCLOT
HEShHATdSANDALhWITHBUNNYEARSpENSSYMBOLkNSIGNfODcRDJOINERgSEPARATORMIDDLEDOTtLDMAPfMbRIEDFACEkRAPPED
PRESENTmEATHPRODUCTkNCHdSTLERShITINGHANDlXIANGQIBLACKCANNONfHARIOThELEPHANTiGENERALhHORSEfMANDARINi
SOLDIERmREDCANNONfHARIOThELEPHANTiGENERALhHORSEfMANDARINiSOLDIERpNARECTANGLEBOXpORcRAYeYAWNINGFACEk
ELLOWHEARTjNSIGNfZIDICOMBININGHAMZAMARKjMADDAMARKsHYPHENATIONMARKpLETTERBEcCHHIMdIMdIMdDADbLdELIFdT
bWbYNdFAcGAFdHAYcHAdJAcKAFcHAFeLAMaWITHDOTABOVEpMIMdNUNdOWcPEbHEdQAFdRAbHAdSADcEbHINdINdTAbHEdUMcVA
aALTERNATEFORMpWAWdXAbHEYNfYOTaWITHCIRCUMFLEXABOVEwZAaLcEnINYANGfRADICALBBUTdURdCHEcIPcUOPdYaPbTdDD
URdUcGAbEPcGOPcUOdOTdHMOcXITcOPcUOeJJIEcUTcYcOcKEbITdLIaEcYRdMIbOPdNBIEdYIPcOPdZUPeOPcPUTcYTdQOTdSH
ATcOPcURcYcSIdTATcUcVEPcURdWOcYITcOcZAbOTcUPbRcZIETmSYLLABLEAaPbTbXcBAaPbTbXcBAaPbTbXcEaPbXcIaEaPbT
bXcPbTbXcOaPbTbXcUaOaPbXcPbRaXcTbXcYaPbTbXdEaPbXcIaEaPbTbXcPbTbXcOaPbTbXcUaOaPbXcPbRaXcTbXcYaPbRaXc
TbXdCAaPbTbXcEaPbXcHAaPbTbXcEaPbTbXcOaPbTbXcUaOaPbTbXcPbRaXcXcYaPbRaXcTbXdIaEaPbTbXcPbTbXcOaPbTbXcU
aOaPbXcPbRaXcTbXcYaPbRaXcTbXdDAaPbTbXcDAaPbTbXcEaPbXcIaEaPbXcPbTbXcOaPbTbXcUaOaPbXcPbRaXcTbXdEaPbXc
IaEaPbXcPbTbXcOaPbTbXcUaOaXcPbRaXcTbXdEaXcFAaPbTbXcIaPbTbXcOaPbXcUaPbRaXcTbXcYaPbTbXdGAaPbTbXcEaPbT
bXcGAaPbTbXcEaPbTbXcIaEaPbXcTbXcOaPbTbXcUaOaPbTbXcPbRaXcTbXdIaEaPbTbXcPbTbXcOaPbTbXcUaOaPbTbXcPbRaX
cTbXdHAaPbTbXcEaPbXcIEaXcTcLAaPbTbXcEaPbXcIaEaPbXcPbTbXcOaPbXcUaOaPbXcPbRaXcTbXcYaPbRaXcTbXdMAaPbTb
XcIaEaPbXcPbTbXcOaPbTbXcUaOaPbXcPbRaXcTbXcYaPbRaXcXdNAaPbTbXcEaPbXcIaEaPbTbXcPbTbXcOPbTbXcUOaXcTdOa
PbTbXcUOaPbTbXdXAaPbTbXcEaPbXcIaEaPbTbXcPbTbXcOaPbTbXcUOaPbTbXfIaEaPbTbXcPbTaERATIONMARKmXcJIaEaPbT
bXcPbTbXcJIaEaPbTbXcPbTbXcOaPbTbXcUaOaPbXcPbRaXcTbXcYaPbTbXdOaPbTbXcUaOaPbTbXcPbRaXcTbXcYaPbRaXcTbX
dKAaPbTbXcEaPbTbXcIaEaPbXcPbTbXcOaPbTbXcUaOaPbXcPbRaXcTbXdLAaPbTbXcEaPbXcIaEaPbTbXcPbTbXcOaPbTbXcUa
OaPbTbXcPbRaXcTbXcYaPbRaXcTbXdMAaPbTbXcEaXcGAaPbTbXcEaPbXcIEaXdOaPbTbXcUaOaPbXcPbRaXcTbXdIaEaPbXcPb
TbXcOaPbTbXcUaOaPbTbXcPbRaXcTbXcYaPbTbXdNAaPbXcBAaPbTbXcIaEaPbXcPbTbXcOaPbTbXcUaPbRaXcTbXcYaPbRaXcT
bXdDAaPbTbXcEaPbXcIaEaXcPbTbXcOaPbTbXcUaPbRaXcTbXdEaPbXcGAaPbTbXcEaPbXcIEaPbXdOaPbTbXcUOaTbXeIaEaPb
XcPbTbXcJIaEaPbTbXcPbTbXcOaPbTbXcUaOaXcPbRaXcXcYaPbRaXcTbXdOaPbTbXcRAaPbTbXcEaPbTbXcOaPbXcUaPbRaXcT
bXcYaPbRaXcTbXdUaOaPbXcPbRaXcTbXcYIaEaPbTbXcPbTbXcOaPbTbXcUaOaPbXcPbTbXdZAaPbTbXcEaXcIaEaPbXcPbTbXc
OPbXcUaOaXcPbRaXcXcYaPbRaXcTbXeOaPbTbXcPAaPbTbXcIaEaPbXcPbTbXcOaPbTbXcUaOaPbXcPbRaXcTbXcYaPbRaXcTbX
dQIaEaPbTbXcPbTbXcOaPbTbXcUaOaPbTbXcPbRaXcTbXcYaPbRaXcTbXdRAaPbTbXcEaPbXcOaPbTbXcRAaXcEaPbTbXcOaPbT
bXcUaOaXcPbRaXcTbXcYaPbRaXcTbXdUaOaPbXcPbRaXcTbXcYaPbRaXcTbXdSAaPbTbXcEaPbXcHAaPbTbXcEaPbTbXcOaPbTb
XcUaOaPbXcPbRaXcTbXcYaPbRaXcTbXdIaEaPbXcPbTbXcOaPbTbXcSAaPbTbXcEaPbXcIaEaPbXcPbTbXcOaPbTbXcUaPbTbXc
YaPbRaXcTbXdUaOaPbXcPbRaXcTbXcYaPbRaXcTbXdTAaPbTbXcEaPbXcIaEaPbXcPbTbXcOaPbTbXcUaOaPbTbXcPbRaXcTbXd
UOaPbXdVAaPbTbXcEPbXcIaEaPbTbXcPbTbXcOaPbTbXcUaPbRaXcTbXcYaPbRaXcTbXdWAaPbTbXcEaPbXcOaPbXcUaOaPbXeX
IaEaPbTbXcPbTbXcOaPbTbXcUOaXdYaPbRaXcTbXdYIaEaPbTbXcPbTbXcOaPbTbXcUaOaPbTbXcPbRaXcTbXcYaPbRaXcTbXdZ
AaPbTbXcEaPbXcHAaPbTbXcEaPbTbXcOaPbTbXcUaOaPbXcPbRaXcTbXcYaPbRaXcTbXdIaEaPbXcPbTbXcOaPbTbXcUaOaPbXc
PbRaXcTbXcYaPbRaXcTbXcZAaPbTbXcEaPbXcIaEaPbTbXcPbTbXcOaPbXcUaPbRaXcXcYaPbRaXcTbXnOYOeZANABAZARSQUAR
ECLOSINGDOUBLELINEDHEADMARKtHEADMARKnUSTERFINALLETTERLAcRAcVAcYAnINITIALLETTERRAwFINALCONSONANTMARK
sINITIALDOUBLELINEDHEADMARKtHEADMARKpLETTER-AcAbBAbHAdCAbHAdDAbDAbHAdHAcZAbHAeGAbHAdHAcJAcKAbHAcSSA
eLAcMAcNAbGAcNAcYAdPAbHAdRAcSAbHAcSAdTAbHAcSAbHAdTAbHAeVAcYAcZAbHAjMARKDOUBLESHADkLONGTSHEGjSHADeTS
HEGjSIGNANUSVARAiCANDRABINDUaWITHORNAMENTrWITHORNAMENTsVIRAMAeSARGAkUBJOINERjVOWELLENGTHMARKkSIGNAI
bUcEbIbOaEcREVERSEDIjUaEzEBRAFACEhROWIDTHJOINERgNOBREAKSPACEkNJOINERjSPACEmUSdIPPERMOUTHFACEoNAMENN
YCOMBININGATTACHINGVERTICALOMETvLOWERTONALRANGEINDICATORyMARKBORZAYAhCHASHKAaPOLNAYAnURVEDOMETkDEME
STVENNYZADERZHKAtVOETOCHIEkGORAZDONIZKOONLEFTeRIGHThSKRYZHEMONLEFTeRIGHTuVYSOKOnKACHKAfRYZHaONLEFTk
UPNAYAhLOMKAfMALOPOVYSHEONLEFTeRIGHThSKHOKHLOMONLEFTeRIGHToRYZHEMhTRANNOsNIZKOONLEFTeRIGHThSKRYZHEM
ONLEFTeRIGHTuOBLACHKOhNbTSECHKAiPODCHASHIEaWITHVERTICALSTROKEzVERTKAhVYSHEONLEFTeRIGHThSKHOKHLOMONL
EFTeRIGHToRYZHEMhTRANNOoRAVNOdZSEKAhSKOBAeOROCHYANOZHKAnREDNEONLEFTeRIGHTmTRANNOMALOPOVYSHEsTIKHAYA
gOCHKAfSATAONLEFTeRIGHThSKRYZHEMnUDARKAgVYSOKOONLEFTeRIGHThSKHOKHLOMONLEFTeRIGHToRYZHEMoZADERZHKAiE
LOcVOKjTONALRANGEMARKMRACHNOhSVETLOgTRESVETLOÆNEUMECHASHKAfELYUSTKAkDEMESTVENNYKLYUCHpRBITSAhOUBLEZ
APYATAYAoUDAdVAVCHELNUkFITAeGOLUBCHIKBORZYfMRACHNYhSVETLYgTIKHYeRESVETLYsKHAMILOgLYUCHfOBYLAfRYUKaT
IKHYhZHeUFISMAhMECHIKaKLYUCHENEPOSTOYANNYmPOVODNYhVOYkPOVODNYnNEMKAfOBLAKOfSOKAaKLYUCHEVAYANEPOSTOY
ANNAYAoSVETLAYAsRYUKOVAYASVETLAYAsSVETLAYAiTRESVETLAYAqPALKAdRAKLITgUKdEREVODKAaNEPOSTOYANNAYAwODCH
ASHIEiLKULIZMYkREVERSEDCHELYUSTKArOGdSKAMEYTSADVOECHELNAYAKLYUCHEVAYAlNEPOSTOYANNAYAoPROSTAYAiSVETL
AYAuKLYUCHENEPOSTOYANNAYAoVAYASVETLAYAiTIKHAYAsMRACHNAYAjSVETLAYAiTIKHAYAgRESVETLAYAtLOZHITIEaSKRYZ
HEMhZAPYATOYjZAKRYTOEqTATYAaNEPOSTOYANNAYAoSDVUMYAZAPYATYMIpKRYZHEMaIZAPYATOYqROGOMfZAPYATOYaIKRYZH
EMhPODCHASHIEMvZAKRYTAYAaSZAPYATOYwOPITSAaSOCHKOMhWITHSOROCHYANOZHKAyRELADVOECHELNAYAaKLYUCHEVAYAoO
KRYZHEVAYAkPOVODNAYAaKLYUCHEVAYAÄGROMNAYAaWITHSINGLEZAPYATAYAxOKRYZHEVAYAaPOVODNAYAtPOVODNAYAaWITHD
OUBLEZAPYATAYApSINGLEZAPYATAYAÇKLYUCHENEPOSTOYANNAYAoPOVODNAYApRYUKOVAYAaGROMNAYAaWITHSINGLEZAPYATA
YAxOKRYZHEVAYAaPOVODNAYAtPOVODNAYAaWITHDOUBLEZAPYATAYApSINGLEZAPYATAYAÇPOVODNAYAjTRYASKAoZHEVAYAkMR
ACHNOTIKHAYAoNEPOSTOYANNAYAoPOLUPOVODNAYAlVODNAYAiROSTAYAiTIKHAYAPUTNAYAnRYASOGLASNAYAiPOVODNAYAjST
RELNAYAvVRAKHIYAKLYUCHEVAYAMRACHNAYAjPROSTAYAiSVETLAYAiTRESVETLAYAwMRACHNAYAjPROSTAYAiSVETLAYAiTRES
VETLAYAtZANOZHEKgPYATAYAiMEYTSAmPRIZNAKMODIFIERDIRECTIONFLIPnKRYZHfLEVEL2b3gROGyOTATIONBAGMEMBERSHI
PnDOMAINANTIRESTRICTIONvLEFTBINDINGBRACKEToIMAGEBRACKETqRANGEANTIRESTRICTIONtELATIONALCOMPOSITIONuI
GHTBINDINGBRACKEToIMAGEBRACKETrSCHEMACOMPOSITIONlPIPINGfROJECTIONpPOTeTYPECOLONrOMBIEfWJbNBSPdJcSPa"

end ServiceStubs.Text
